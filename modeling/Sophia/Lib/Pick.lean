import Mathlib.Data.List.Basic
import Mathlib.Data.List.Induction
import Mathlib.Data.List.Nodup

/-! Choosing one element of a list that is kept in a strict order. -/
namespace Sophia.Pick

variable {α β : Type*}

/-- The last of the elements with the largest rank. -/
def maxByKey (rank : α → ℕ) : List α → Option α
  | [] => none
  | x :: xs => match maxByKey rank xs with
    | none => some x
    | some y => if rank x ≤ rank y then some y else some x

/-- The first element is chosen over the second: larger rank, or equal rank and later. -/
def Outranks (rank : α → ℕ) (r : α → α → Prop) (a b : α) : Prop :=
  rank b < rank a ∨ rank b = rank a ∧ r b a

variable {rank : α → ℕ} {r : α → α → Prop} {l : List α} {a b : α}

theorem Outranks.asymm (hr : ∀ a b, r a b → ¬ r b a) (hab : Outranks rank r a b) :
    ¬ Outranks rank r b a := by
  intro hba
  rcases hab with h | ⟨h, hr'⟩ <;> rcases hba with h' | ⟨h', hr''⟩
  · omega
  · omega
  · omega
  · exact hr _ _ hr' hr''

theorem maxByKey_eq_none : maxByKey rank l = none ↔ l = [] := by
  cases l with
  | nil => simp [maxByKey]
  | cons x xs =>
    simp only [maxByKey, reduceCtorEq, iff_false]
    cases maxByKey rank xs with
    | none => simp
    | some y => by_cases hy : rank x ≤ rank y <;> simp [hy]

theorem mem_of_maxByKey (h : maxByKey rank l = some a) : a ∈ l := by
  induction l generalizing a with
  | nil => cases h
  | cons x xs ih =>
    rw [maxByKey] at h
    cases hxs : maxByKey rank xs with
    | none =>
      rw [hxs] at h
      cases h
      exact List.mem_cons_self
    | some y =>
      simp only [hxs] at h
      split at h
      · cases h
        exact List.mem_cons_of_mem _ (ih hxs)
      · cases h
        exact List.mem_cons_self

theorem outranks_of_maxByKey (hs : l.Pairwise r) (h : maxByKey rank l = some a) :
    ∀ b ∈ l, b ≠ a → Outranks rank r a b := by
  induction l generalizing a with
  | nil => cases h
  | cons x xs ih =>
    obtain ⟨hx, hxs⟩ := List.pairwise_cons.mp hs
    intro b hb hne
    rw [maxByKey] at h
    cases hm : maxByKey rank xs with
    | none =>
      rw [maxByKey_eq_none] at hm
      subst hm
      cases h
      exact absurd (List.mem_singleton.mp hb) hne
    | some y =>
      simp only [hm] at h
      split at h
      · rename_i hle
        cases h
        rcases List.mem_cons.mp hb with rfl | hb
        · have hr := hx _ (mem_of_maxByKey hm)
          rcases Nat.lt_or_eq_of_le hle with hlt | heq
          · exact Or.inl hlt
          · exact Or.inr ⟨heq, hr⟩
        · exact ih hxs hm b hb hne
      · rename_i hgt
        cases h
        rcases List.mem_cons.mp hb with rfl | hb
        · exact absurd rfl hne
        · refine Or.inl ?_
          by_cases hby : b = y
          · subst hby
            omega
          · rcases ih hxs hm b hb hby with hlt | ⟨heq, -⟩ <;> omega

/-- In a strictly ordered list the chosen element is the one that outranks all others. -/
theorem maxByKey_eq_some_iff (hs : l.Pairwise r) (hr : ∀ a b, r a b → ¬ r b a) :
    maxByKey rank l = some a ↔ a ∈ l ∧ ∀ b ∈ l, b ≠ a → Outranks rank r a b := by
  refine ⟨fun h => ⟨mem_of_maxByKey h, outranks_of_maxByKey hs h⟩, ?_⟩
  rintro ⟨ha, hall⟩
  cases hm : maxByKey rank l with
  | none =>
    rw [maxByKey_eq_none] at hm
    subst hm
    cases ha
  | some c =>
    by_cases hc : c = a
    · rw [hc]
    · have hca := outranks_of_maxByKey hs hm a ha (Ne.symm hc)
      exact absurd (hall c (mem_of_maxByKey hm) hc) (hca.asymm hr)

/-- The first element for which a search answers comes before every other that would. -/
theorem first_of_findSome? {f : α → Option β} {b : β} (hs : l.Pairwise r)
    (h : l.findSome? f = some b) :
    ∃ a ∈ l, f a = some b ∧ ∀ a' ∈ l, (f a').isSome → a' ≠ a → r a a' := by
  induction l with
  | nil => cases h
  | cons x xs ih =>
    obtain ⟨hx, hxs⟩ := List.pairwise_cons.mp hs
    rw [List.findSome?_cons] at h
    cases hfx : f x with
    | some c =>
      simp only [hfx] at h
      refine ⟨x, List.mem_cons_self, by rw [hfx, h], ?_⟩
      intro a' ha' hsome hne
      rcases List.mem_cons.mp ha' with rfl | ha'
      · exact absurd rfl hne
      · exact hx a' ha'
    | none =>
      simp only [hfx] at h
      obtain ⟨a, ha, hfa, hfirst⟩ := ih hxs h
      refine ⟨a, List.mem_cons_of_mem _ ha, hfa, ?_⟩
      intro a' ha' hsome hne
      rcases List.mem_cons.mp ha' with rfl | ha'
      · rw [hfx] at hsome
        cases hsome
      · exact hfirst a' ha' hsome hne

end Sophia.Pick

/-! Lists without repetitions, made by keeping the first occurrence of each element. -/
namespace Sophia.Firsts

variable {α : Type*} [DecidableEq α]

/-- Keeps each element the first time it comes. -/
def firsts (l : List α) : List α :=
  l.foldl (fun kept a => if a ∈ kept then kept else kept ++ [a]) []

/-- The second list holds the elements of the first, each once, in the order in which they first
occur. -/
structure FirstOccurrences (l kept : List α) : Prop where
  nodup : kept.Nodup
  mem_iff : ∀ a, a ∈ kept ↔ a ∈ l
  ordered : kept.Pairwise fun a b => l.idxOf a < l.idxOf b

variable {l : List α} {a : α}

theorem firsts_snoc :
    firsts (l ++ [a]) = if a ∈ firsts l then firsts l else firsts l ++ [a] := by
  rw [firsts, List.foldl_append]
  rfl

theorem firstOccurrences_firsts (l : List α) : FirstOccurrences l (firsts l) := by
  induction l using List.reverseRecOn with
  | nil => exact ⟨List.nodup_nil, fun _ => Iff.rfl, List.Pairwise.nil⟩
  | append_singleton l a ih =>
    obtain ⟨hnodup, hmem, hordered⟩ := ih
    -- The elements kept so far occur where they did.
    have hkept : (firsts l).Pairwise fun b c => (l ++ [a]).idxOf b < (l ++ [a]).idxOf c := by
      refine hordered.imp_of_mem fun {b c} hb hc hlt => ?_
      rwa [List.idxOf_append_of_mem ((hmem b).mp hb), List.idxOf_append_of_mem ((hmem c).mp hc)]
    rw [firsts_snoc]
    by_cases ha : a ∈ firsts l
    · rw [if_pos ha]
      refine ⟨hnodup, fun b => ?_, hkept⟩
      rw [hmem, List.mem_append, List.mem_singleton]
      refine ⟨.inl, ?_⟩
      rintro (hb | rfl)
      · exact hb
      · exact (hmem _).mp ha
    · rw [if_neg ha]
      refine ⟨?_, fun b => ?_, ?_⟩
      · rw [List.nodup_append]
        refine ⟨hnodup, List.nodup_singleton a, ?_⟩
        intro b hb c hc he
        rw [List.mem_singleton] at hc
        exact ha (hc ▸ he ▸ hb)
      · rw [List.mem_append, List.mem_append, hmem]
      · rw [List.pairwise_append]
        refine ⟨hkept, List.pairwise_singleton _ _, ?_⟩
        intro b hb c hc
        rw [List.mem_singleton.mp hc, List.idxOf_append_of_mem ((hmem b).mp hb),
          List.idxOf_append_of_notMem (fun h => ha ((hmem a).mpr h)), List.idxOf_cons_self]
        exact Nat.lt_add_right 0 (List.idxOf_lt_length_iff.mpr ((hmem b).mp hb))

end Sophia.Firsts
