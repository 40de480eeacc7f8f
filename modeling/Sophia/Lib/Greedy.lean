import Mathlib.Combinatorics.Enumerative.DoubleCounting
import Mathlib.Data.List.Nodup
import Mathlib.Data.Finset.Dedup

/-! Greedy allocation: each in turn takes one of its choices whose resources are all free, if there
is one. -/
namespace Sophia.Greedy

variable {α ρ σ : Type*} {choices : α → ρ → Prop} {uses : ρ → List σ} {done : List α}
  {chosen : List (α × ρ)} {a : α} {r : ρ} {k : ℕ}

/-- The resources of the choices made. -/
def held (uses : ρ → List σ) (chosen : List (α × ρ)) : List σ :=
  chosen.flatMap fun entry => uses entry.2

/-- No resource of the choice is taken. -/
def Free (uses : ρ → List σ) (taken : List σ) (r : ρ) : Prop := ∀ u ∈ uses r, u ∉ taken

/-- What has been chosen after some have had their turn. -/
structure Allocated (choices : α → ρ → Prop) (uses : ρ → List σ) (done : List α)
    (chosen : List (α × ρ)) : Prop where
  order : (chosen.map Prod.fst).Sublist done
  offered : ∀ entry ∈ chosen, choices entry.1 entry.2
  apart : chosen.Pairwise fun entry other => ∀ u ∈ uses other.2, u ∉ uses entry.2
  stuck : ∀ a ∈ done, (∃ r, (a, r) ∈ chosen) ∨
    ∀ r, choices a r → ¬ Free uses (held uses chosen) r

theorem mem_held {u : σ} : u ∈ held uses chosen ↔ ∃ entry ∈ chosen, u ∈ uses entry.2 :=
  List.mem_flatMap

theorem Free.of_append {entry : α × ρ} (h : Free uses (held uses (chosen ++ [entry])) r) :
    Free uses (held uses chosen) r := by
  intro u hu htaken
  obtain ⟨other, hother, hmem⟩ := mem_held.mp htaken
  exact h u hu (mem_held.mpr ⟨other, List.mem_append_left _ hother, hmem⟩)

theorem allocated_nil : Allocated choices uses [] [] where
  order := .slnil
  offered := by simp
  apart := .nil
  stuck := by simp

theorem Allocated.take (h : Allocated choices uses done chosen) (hr : choices a r)
    (hfree : Free uses (held uses chosen) r) :
    Allocated choices uses (done ++ [a]) (chosen ++ [(a, r)]) where
  order := by
    rw [List.map_append]
    exact h.order.append (List.Sublist.refl _)
  offered := by
    intro entry hentry
    rcases List.mem_append.mp hentry with hentry | hentry
    · exact h.offered entry hentry
    · rw [List.mem_singleton.mp hentry]
      exact hr
  apart := by
    rw [List.pairwise_append]
    refine ⟨h.apart, List.pairwise_singleton _ _, ?_⟩
    intro entry hentry other hother u hu hmem
    rw [List.mem_singleton.mp hother] at hu
    exact hfree u hu (mem_held.mpr ⟨entry, hentry, hmem⟩)
  stuck := by
    intro b hb
    rcases List.mem_append.mp hb with hb | hb
    · rcases h.stuck b hb with ⟨s, hs⟩ | hnone
      · exact .inl ⟨s, List.mem_append_left _ hs⟩
      · exact .inr fun s hs hfree => hnone s hs hfree.of_append
    · rw [List.mem_singleton.mp hb]
      exact .inl ⟨r, by simp⟩

theorem Allocated.skip (h : Allocated choices uses done chosen)
    (hnone : ∀ r, choices a r → ¬ Free uses (held uses chosen) r) :
    Allocated choices uses (done ++ [a]) chosen where
  order := h.order.trans (List.sublist_append_left _ _)
  offered := h.offered
  apart := h.apart
  stuck := by
    intro b hb
    rcases List.mem_append.mp hb with hb | hb
    · exact h.stuck b hb
    · rw [List.mem_singleton.mp hb]
      exact .inr hnone

section Completeness

variable {assigned : α → ρ}

/-- One choice for each, no two of which share a resource. -/
structure Assignment (choices : α → ρ → Prop) (uses : ρ → List σ) (done : List α)
    (assigned : α → ρ) : Prop where
  offered : ∀ a ∈ done, choices a (assigned a)
  apart : ∀ a ∈ done, ∀ b ∈ done, a ≠ b → ∀ u ∈ uses (assigned a), u ∉ uses (assigned b)

theorem Assignment.subset {fewer : List α} (h : Assignment choices uses done assigned)
    (hsubset : fewer ⊆ done) : Assignment choices uses fewer assigned where
  offered a ha := h.offered a (hsubset ha)
  apart a ha b hb := h.apart a (hsubset ha) b (hsubset hb)

theorem length_held (hk : ∀ r, (uses r).length ≤ k) :
    (held uses chosen).length ≤ k * chosen.length := by
  induction chosen with
  | nil => simp [held]
  | cons entry rest ih =>
    have hentry := hk entry.2
    have hsplit : (held uses (entry :: rest)).length =
        (uses entry.2).length + (held uses rest).length := by
      simp [held]
    rw [hsplit, List.length_cons, Nat.mul_succ]
    omega

/-- A greedy allocation serves one in `k + 1` of those that could all be served, where no choice
needs more than `k` resources. -/
theorem Allocated.length_le (h : Allocated choices uses done chosen) (hnodup : done.Nodup)
    (hk : ∀ r, (uses r).length ≤ k) (hassigned : Assignment choices uses done assigned) :
    done.length ≤ (k + 1) * chosen.length := by
  classical
  let served := (chosen.map Prod.fst).toFinset
  let blocked := done.toFinset.filter fun a => ∀ r, (a, r) ∉ chosen
  have hserved : served.card ≤ chosen.length := by
    have := (chosen.map Prod.fst).toFinset_card_le
    rwa [List.length_map] at this
  -- Each that was left out is blocked by a resource of its own that someone else holds.
  have hblocked : blocked.card ≤ (held uses chosen).toFinset.card := by
    refine Finset.card_le_card_of_forall_subsingleton (fun a u => u ∈ uses (assigned a)) ?_ ?_
    · intro a ha
      obtain ⟨hdone, hout⟩ := Finset.mem_filter.mp ha
      rw [List.mem_toFinset] at hdone
      rcases h.stuck a hdone with ⟨r, hr⟩ | hnone
      · exact absurd hr (hout r)
      · have hheld := hnone _ (hassigned.offered a hdone)
        simp only [Free, not_forall, not_not] at hheld
        obtain ⟨u, hu, htaken⟩ := hheld
        exact ⟨u, List.mem_toFinset.mpr htaken, hu⟩
    · intro u hu a ha b hb
      by_contra hne
      have hdone := List.mem_toFinset.mp (Finset.mem_filter.mp ha.1).1
      have hdone' := List.mem_toFinset.mp (Finset.mem_filter.mp hb.1).1
      exact hassigned.apart a hdone b hdone' hne u ha.2 hb.2
  have hall : done.toFinset ⊆ served ∪ blocked := by
    intro a ha
    by_cases hin : ∃ r, (a, r) ∈ chosen
    · obtain ⟨r, hr⟩ := hin
      exact Finset.mem_union_left _ (List.mem_toFinset.mpr (List.mem_map_of_mem hr))
    · exact Finset.mem_union_right _ (Finset.mem_filter.mpr ⟨ha, not_exists.mp hin⟩)
  calc done.length = done.toFinset.card := (List.toFinset_card_of_nodup hnodup).symm
    _ ≤ (served ∪ blocked).card := Finset.card_le_card hall
    _ ≤ served.card + blocked.card := Finset.card_union_le _ _
    _ ≤ chosen.length + k * chosen.length := by
      have htaken := (held uses chosen).toFinset_card_le
      have hlength := @length_held _ _ _ uses chosen k hk
      omega
    _ = (k + 1) * chosen.length := by rw [Nat.add_mul, Nat.one_mul, Nat.add_comm]

/-- Where what one is assigned is a choice of no one else, all are served. -/
theorem Allocated.complete (h : Allocated choices uses done chosen) (hnodup : done.Nodup)
    (hoffered : ∀ a ∈ done, choices a (assigned a))
    (hown : ∀ a ∈ done, ∀ u ∈ uses (assigned a), ∀ b ∈ done, ∀ r, choices b r →
      u ∈ uses r → b = a) :
    chosen.length = done.length := by
  have hserved : done ⊆ chosen.map Prod.fst := by
    intro a ha
    rcases h.stuck a ha with ⟨r, hr⟩ | hnone
    · exact List.mem_map_of_mem hr
    · have hheld := hnone _ (hoffered a ha)
      simp only [Free, not_forall, not_not] at hheld
      obtain ⟨u, hu, htaken⟩ := hheld
      obtain ⟨⟨b, r⟩, hentry, hmem⟩ := mem_held.mp htaken
      have hb := List.mem_map_of_mem (f := Prod.fst) hentry
      rw [← hown a ha u hu b (h.order.subset hb) r (h.offered _ hentry) hmem]
      exact hb
  have hle := (List.subperm_of_subset hnodup hserved).length_le
  have hge := h.order.length_le
  rw [List.length_map] at hle hge
  omega

end Completeness
end Sophia.Greedy
