import Mathlib.Data.List.Basic

/-! Handles that one table owns by name and another one keeps, in step with it. -/
namespace Sophia

variable {κ η : Type*}

/-- No handle has two owners, and every owned handle is live on the other side. -/
structure InStep (owned : κ → Option η) (live : η → Prop) : Prop where
  alone : ∀ k k' h, owned k = some h → owned k' = some h → k = k'
  live : ∀ k h, owned k = some h → live h

/-- Nothing new is owned, and every handle of the list has just lost its owner. -/
structure Loses (owned owned' : κ → Option η) (reported : List η) : Prop where
  kept : ∀ k h, owned' k = some h → owned k = some h
  gone : ∀ h ∈ reported, ∃ k, owned k = some h ∧ owned' k = none

/-- Every handle the other side knows was given out, unless the counter is at its last number. -/
def Numbered (known : η → Prop) (number : η → ℕ) (next last : ℕ) : Prop :=
  ∀ h, known h → number h < next ∨ next = last

variable {owned owned' owned'' : κ → Option η} {live live' known known' : η → Prop}
  {number : η → ℕ} {reported more : List η} {next next' last : ℕ} {k : κ} {h : η}

namespace Loses

theorem refl (owned : κ → Option η) : Loses owned owned [] :=
  ⟨fun _ _ hget => hget, fun _ hmem => absurd hmem List.not_mem_nil⟩

theorem of_eq (he : owned' = owned) : Loses owned owned' [] := he ▸ refl owned

/-- What is lost first and what is lost then is lost in the end. -/
theorem trans (hfirst : Loses owned owned' reported) (hthen : Loses owned' owned'' more) :
    Loses owned owned'' (reported ++ more) where
  kept k h hget := hfirst.kept k h (hthen.kept k h hget)
  gone h hmem := by
    rcases List.mem_append.mp hmem with hmem | hmem
    · obtain ⟨k, hown, hnone⟩ := hfirst.gone h hmem
      refine ⟨k, hown, ?_⟩
      cases hlast : owned'' k with
      | none => rfl
      | some found =>
        have hback := hthen.kept k found hlast
        rw [hnone] at hback
        cases hback
    · obtain ⟨k, hown, hnone⟩ := hthen.gone h hmem
      exact ⟨k, hfirst.kept k h hown, hnone⟩

theorem of_erased [DecidableEq κ]
    (herased : ∀ k', owned' k' = if k' = k then none else owned k') :
    Loses owned owned' (owned k).toList := by
  constructor
  · intro k' h hget
    rw [herased] at hget
    split at hget
    · cases hget
    · exact hget
  · intro h hmem
    exact ⟨k, Option.mem_toList.mp hmem, by rw [herased, if_pos rfl]⟩

/-- Only some of what was lost need be reported. -/
theorem fewer (hlost : Loses owned owned' reported) (hsub : ∀ h ∈ more, h ∈ reported) :
    Loses owned owned' more :=
  ⟨hlost.kept, fun h hmem => hlost.gone h (hsub h hmem)⟩

end Loses

namespace InStep

theorem empty (live : η → Prop) : InStep (fun _ : κ => none) live :=
  ⟨fun _ _ _ hget => (by cases hget), fun _ _ hget => (by cases hget)⟩

/-- The handles that lost their owners may go. -/
theorem lose (hstep : InStep owned live) (hlost : Loses owned owned' reported)
    (hlive : ∀ h, h ∉ reported → live h → live' h) : InStep owned' live' where
  alone k k' h hget hget' := hstep.alone k k' h (hlost.kept k h hget) (hlost.kept k' h hget')
  live k h hget := by
    have hown := hlost.kept k h hget
    refine hlive h (fun hmem => ?_) (hstep.live k h hown)
    obtain ⟨k', hown', hnone⟩ := hlost.gone h hmem
    have hsame := hstep.alone k k' h hown hown'
    rw [hsame, hnone] at hget
    cases hget

theorem mono (hstep : InStep owned live) (hlive : ∀ h, live h → live' h) : InStep owned live' :=
  hstep.lose (.refl owned) fun h _ => hlive h

/-- A name gets a handle that was not live before. -/
theorem enter (hstep : InStep owned live) (hnew : ¬ live h) (hlive : live' h)
    (hkeeps : ∀ h, live h → live' h)
    (howned : ∀ k' h', owned' k' = some h' → (k' = k ∧ h' = h) ∨ owned k' = some h') :
    InStep owned' live' where
  alone k₁ k₂ h' hget₁ hget₂ := by
    rcases howned k₁ h' hget₁ with ⟨rfl, rfl⟩ | hold₁
    · rcases howned k₂ h' hget₂ with ⟨rfl, -⟩ | hold₂
      · rfl
      · exact absurd (hstep.live k₂ h' hold₂) hnew
    · rcases howned k₂ h' hget₂ with ⟨rfl, rfl⟩ | hold₂
      · exact absurd (hstep.live k₁ h' hold₁) hnew
      · exact hstep.alone k₁ k₂ h' hold₁ hold₂
  live k' h' hget := by
    rcases howned k' h' hget with ⟨-, rfl⟩ | hold
    · exact hlive
    · exact hkeeps h' (hstep.live k' h' hold)

end InStep

namespace Numbered

theorem mono (hnumbered : Numbered known number next last) (hknown : ∀ h, known' h → known h) :
    Numbered known' number next last := fun h hk => hnumbered h (hknown h hk)

/-- The number of the counter is a new one, or the counter is stuck. -/
theorem fresh (hnumbered : Numbered known number next last) (hnumber : number h = next)
    (hstuck : next = last → ¬ known h) : ¬ known h := by
  intro hk
  rcases hnumbered h hk with hlt | hlast
  · omega
  · exact hstuck hlast hk

/-- The counter moves on past the number it gave, as far as it goes. -/
theorem enter (hnumbered : Numbered known number next last) (hnumber : number h = next)
    (hnext : next' = min (next + 1) last) (hbound : next ≤ last)
    (hknown : ∀ h', known' h' → h' = h ∨ known h') : Numbered known' number next' last := by
  intro h' hk
  rcases hknown h' hk with rfl | hold
  · omega
  · rcases hnumbered h' hold with hlt | hlast
    · omega
    · omega

end Numbered
end Sophia
