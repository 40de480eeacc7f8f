import Mathlib.Algebra.Order.Group.Nat
import Sophia.Lib.Run

/-! Things taken into use by some actions of a run and reported released by others. -/
namespace Sophia.Lifetimes

open Run

variable {σ α κ : Type*}

section Stretches

variable {takes : α → κ → Prop} [∀ a k, Decidable (takes a k)] {actions more : List α} {k : κ}

/-- The actions up to the next one that takes the thing, and what is behind them. -/
theorem takeWhile_split (actions : List α) (k : κ) :
    ∃ rest, actions = actions.takeWhile (fun a => ¬ takes a k) ++ rest ∧
      (rest = [] ∨ ∃ a rest', rest = a :: rest' ∧ takes a k) := by
  refine ⟨actions.dropWhile fun a => ¬ takes a k, List.takeWhile_append_dropWhile.symm, ?_⟩
  cases hrest : actions.dropWhile fun a => ¬ takes a k with
  | nil => exact .inl rfl
  | cons a rest' =>
    have hhead := List.head?_dropWhile_not (fun a => decide (¬ takes a k)) actions
    rw [hrest] at hhead
    exact .inr ⟨a, rest', rfl, by simpa using hhead⟩

theorem not_takes_of_mem_takeWhile {a : α} (h : a ∈ actions.takeWhile fun a => ¬ takes a k) :
    ¬ takes a k := by
  simpa using List.all_eq_true.mp List.all_takeWhile a h

theorem takeWhile_of_taken {a : α} (hbefore : ∀ b ∈ actions, ¬ takes b k) (ha : takes a k) :
    (actions ++ a :: more).takeWhile (fun b => ¬ takes b k) = actions := by
  rw [List.takeWhile_append_of_pos (by simpa using hbefore),
    List.takeWhile_cons_of_neg (by simpa using ha), List.append_nil]

/-- The last action that takes the thing. -/
theorem exists_last_taken (h : ∃ a ∈ actions, takes a k) :
    ∃ before a after, actions = before ++ a :: after ∧ takes a k ∧ ∀ b ∈ after, ¬ takes b k := by
  induction actions with
  | nil =>
    obtain ⟨a, ha, -⟩ := h
    cases ha
  | cons a actions ih =>
    by_cases hrest : ∃ b ∈ actions, takes b k
    · obtain ⟨before, b, after, rfl, hb, hafter⟩ := ih hrest
      exact ⟨a :: before, b, after, rfl, hb, hafter⟩
    · obtain ⟨b, hb, htakes⟩ := h
      rcases List.mem_cons.mp hb with rfl | hb
      · exact ⟨[], b, actions, rfl, htakes, fun c hc hk => hrest ⟨c, hc, hk⟩⟩
      · exact absurd ⟨b, hb, htakes⟩ hrest

end Stretches

variable [DecidableEq κ] (step : σ → α → σ) (report : σ → α → List κ)
  (takes : α → κ → Prop) [∀ a k, Decidable (takes a k)] (held : σ → κ → Prop)

/-- How often the actions report the thing released. -/
def released (k : κ) : σ → List α → ℕ
  | _, [] => 0
  | s, a :: actions => (report s a).count k + released k (step s a) actions

/-- Each thing taken is released once before it is taken again or the run ends. -/
def OnceBetween (s : σ) (actions : List α) : Prop :=
  ∀ before a after k, actions = before ++ a :: after → takes a k →
    released step report k (exec step s (before ++ [a]))
      (after.takeWhile fun b => ¬ takes b k) = 1

/-- No action reports a thing that is held when the action is done. -/
def NoneHeld (s : σ) (actions : List α) : Prop :=
  ∀ before a after, actions = before ++ a :: after →
    ∀ k ∈ report (exec step s before) a, ¬ held (exec step s (before ++ [a])) k

/-- The action releases the thing exactly when it ends its being held. -/
def Balanced [∀ s k, Decidable (held s k)] (s : σ) (a : α) (k : κ) : Prop :=
  (report s a).count k + (if held (step s a) k then 1 else 0) = if held s k then 1 else 0

variable {step report held} [∀ s k, Decidable (held s k)] {s : σ} {a : α} {actions : List α}
  {k : κ}

/-- Over a stretch of balanced actions, the releases make up for what is no longer held. -/
theorem released_add_held
    (h : ∀ before a after, actions = before ++ a :: after →
      Balanced step report held (exec step s before) a k) :
    released step report k s actions + (if held (exec step s actions) k then 1 else 0) =
      if held s k then 1 else 0 := by
  induction actions generalizing s with
  | nil => exact Nat.zero_add _
  | cons a actions ih =>
    have hfirst : Balanced step report held s a k := h [] a actions rfl
    have hrest := ih (s := step s a) fun before b after he =>
      h (a :: before) b after (by rw [he, List.cons_append])
    unfold Balanced at hfirst
    rw [released, exec_cons]
    omega

/-- What a balanced action releases is not held any more. -/
theorem Balanced.not_held (h : Balanced step report held s a k) (hk : k ∈ report s a) :
    ¬ held (step s a) k := by
  have hcount := List.count_pos_iff.mpr hk
  intro hheld
  unfold Balanced at h
  rw [if_pos hheld] at h
  split at h <;> omega

end Sophia.Lifetimes
