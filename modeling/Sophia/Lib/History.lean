import Sophia.Lib.Run

/-! Properties of the states of a run that look back at the actions taken so far. -/
namespace Sophia.Run

variable {σ α κ : Type*} (step : σ → α → σ)

/-- Every state of the run, first and last included, stands in the relation to its history. -/
def Throughout (P : List α → σ → Prop) (s : σ) (actions : List α) : Prop :=
  ∀ before after, actions = before ++ after → P before (exec step s before)

/-- Every action of the run meets a condition on its history and the state it is taken from. -/
def GuardedBy (ok : List α → σ → α → Prop) (s : σ) (actions : List α) : Prop :=
  ∀ before a after, actions = before ++ a :: after → ok before (exec step s before) a

/-- Every element of the list meets a condition on the elements before it. -/
def Each (ok : List α → α → Prop) (l : List α) : Prop :=
  ∀ before a after, l = before ++ a :: after → ok before a

/-- Some action marked the key and none since has cleared it. -/
def Marked (marks clears : α → κ → Prop) (actions : List α) (k : κ) : Prop :=
  ∃ before a after, actions = before ++ a :: after ∧ marks a k ∧ ∀ b ∈ after, ¬ clears b k

/-- Some action marked the key in the state it found and none since has cleared it. -/
def Held (marks : σ → α → κ → Prop) (clears : α → κ → Prop) (s : σ) (actions : List α) (k : κ) :
    Prop :=
  ∃ before a after, actions = before ++ a :: after ∧ marks (exec step s before) a k ∧
    ∀ b ∈ after, ¬ clears b k

variable {step} {s : σ} {a : α} {actions : List α} {P : List α → σ → Prop}
  {ok : List α → σ → α → Prop} {marks clears : α → κ → Prop} {k : κ}
  {marksIn : σ → α → κ → Prop}

/-- When one step keeps the property exactly under the guard, so does a whole run. -/
theorem throughout_iff (hnil : P [] s)
    (hstep : ∀ before a after, actions = before ++ a :: after → P before (exec step s before) →
      (P (before ++ [a]) (step (exec step s before) a) ↔ ok before (exec step s before) a)) :
    Throughout step P s actions ↔ GuardedBy step ok s actions := by
  constructor
  · intro h before a after he
    have hnext := h (before ++ [a]) after (by simp [he])
    rw [exec_snoc] at hnext
    exact (hstep before a after he (h before (a :: after) he)).mp hnext
  · intro h before
    induction before using List.reverseRecOn with
    | nil => exact fun _ _ => hnil
    | append_singleton before a ih =>
      intro after he
      have he : actions = before ++ a :: after := by simp [he]
      rw [exec_snoc]
      exact (hstep before a after he (ih _ he)).mpr (h before a after he)

theorem exec_collect (collected l : List α) :
    exec (fun before a => before ++ [a]) collected l = collected ++ l := by
  induction l generalizing collected with
  | nil => simp
  | cons a l ih => rw [exec_cons, ih, List.append_assoc, List.singleton_append]

/-- A condition on the elements before is a guard of the run that collects them. -/
theorem each_iff_guarded {okBefore : List α → α → Prop} {l : List α} :
    Each okBefore l ↔ Guarded (fun before a => before ++ [a]) okBefore [] l := by
  refine forall_congr' fun before => forall_congr' fun a => forall_congr' fun after => ?_
  rw [exec_collect, List.nil_append]

instance decidableEach {okBefore : List α → α → Prop} [∀ before a, Decidable (okBefore before a)]
    (l : List α) : Decidable (Each okBefore l) := decidable_of_iff _ each_iff_guarded.symm

theorem each_snoc {okBefore : List α → α → Prop} {l : List α} :
    Each okBefore (l ++ [a]) ↔ Each okBefore l ∧ okBefore l a := by
  rw [each_iff_guarded, each_iff_guarded, guarded_snoc, exec_collect, List.nil_append]

theorem not_held_nil : ¬ Held step marksIn clears s [] k := by
  rintro ⟨before, a, after, he, -⟩
  simp at he

theorem held_snoc :
    Held step marksIn clears s (actions ++ [a]) k ↔
      marksIn (exec step s actions) a k ∨ Held step marksIn clears s actions k ∧ ¬ clears a k := by
  constructor
  · rintro ⟨before, b, after, he, hb, hclear⟩
    rcases List.eq_nil_or_concat after with rfl | ⟨after, c, rfl⟩
    · obtain ⟨rfl, hab⟩ := List.append_inj' he rfl
      cases hab
      exact Or.inl hb
    · have he : actions ++ [a] = (before ++ b :: after) ++ [c] := by simpa using he
      obtain ⟨hact, hac⟩ := List.append_inj' he rfl
      cases hac
      refine Or.inr ⟨⟨before, b, after, hact, hb, ?_⟩, hclear a (by simp)⟩
      exact fun d hd => hclear d (by simp [hd])
  · rintro (ha | ⟨⟨before, b, after, rfl, hb, hclear⟩, ha⟩)
    · exact ⟨actions, a, [], rfl, ha, by simp⟩
    · refine ⟨before, b, after ++ [a], by simp, hb, ?_⟩
      intro d hd
      rcases List.mem_append.mp hd with hd | hd
      · exact hclear d hd
      · rw [List.mem_singleton.mp hd]
        exact ha

/-- A mark that does not depend on the state is held in a run of any kind. -/
theorem marked_iff_held :
    Marked marks clears actions k ↔
      Held (fun (_ : Unit) _ => ()) (fun _ => marks) clears () actions k := Iff.rfl

theorem not_marked_nil : ¬ Marked marks clears [] k :=
  fun h => not_held_nil (marked_iff_held.mp h)

theorem marked_snoc :
    Marked marks clears (actions ++ [a]) k ↔
      marks a k ∨ Marked marks clears actions k ∧ ¬ clears a k := by
  rw [marked_iff_held, marked_iff_held, held_snoc]

end Sophia.Run

/-! Keys that go down and up, and a stream of strokes that is only relayed in part. -/
namespace Sophia

structure Stroke (κ : Type*) where
  key : κ
  pressed : Bool
  deriving DecidableEq, Repr

namespace Stroke

variable {κ : Type*} [DecidableEq κ]

/-- The last stroke of the key was a press. -/
def down (strokes : List (Stroke κ)) (key : κ) : Bool :=
  ((strokes.filter fun stroke => stroke.key = key).getLast?.map pressed).getD false

/-- No key is down in the relayed strokes but those that are down. -/
def Within (relayed strokes : List (Stroke κ)) : Prop :=
  ∀ key, down relayed key = true → down strokes key = true

variable {strokes relayed : List (Stroke κ)} {stroke : Stroke κ} {key : κ}

@[simp] theorem down_nil : down [] key = false := rfl

theorem down_snoc :
    down (strokes ++ [stroke]) key =
      if stroke.key = key then stroke.pressed else down strokes key := by
  unfold down
  by_cases h : stroke.key = key
  · simp [h]
  · simp [h]

theorem down_snoc_self : down (strokes ++ [stroke]) stroke.key = stroke.pressed := by
  rw [down_snoc, if_pos rfl]

theorem down_snoc_of_ne (h : stroke.key ≠ key) :
    down (strokes ++ [stroke]) key = down strokes key := by
  rw [down_snoc, if_neg h]

/-- A key that is down was pressed. -/
theorem exists_of_down (h : down strokes key = true) :
    ∃ stroke ∈ strokes, stroke.key = key ∧ stroke.pressed = true := by
  induction strokes using List.reverseRecOn with
  | nil => cases h
  | append_singleton strokes stroke ih =>
    by_cases hkey : stroke.key = key
    · rw [← hkey, down_snoc_self] at h
      exact ⟨stroke, by simp, hkey, h⟩
    · rw [down_snoc_of_ne hkey] at h
      obtain ⟨found, hmem, hfound⟩ := ih h
      exact ⟨found, List.mem_append_left _ hmem, hfound⟩

theorem within_nil : Within [] strokes := fun _ h => by cases h

/-- A relayed stroke moves its key the same way on both sides. -/
theorem Within.relay (h : Within relayed strokes) :
    Within (relayed ++ [stroke]) (strokes ++ [stroke]) := by
  intro key hdown
  by_cases hkey : stroke.key = key
  · rw [← hkey, down_snoc_self] at hdown ⊢
    exact hdown
  · rw [down_snoc_of_ne hkey] at hdown ⊢
    exact h key hdown

/-- A stroke may be kept back unless it releases a key whose press was relayed. -/
theorem Within.drop_iff (h : Within relayed strokes) :
    Within relayed (strokes ++ [stroke]) ↔
      (stroke.pressed = false → down relayed stroke.key = false) := by
  constructor
  · intro hwithin hpressed
    by_contra hdown
    have hheld := hwithin stroke.key (Bool.not_eq_false _ ▸ hdown)
    rw [down_snoc_self, hpressed] at hheld
    cases hheld
  · intro hkept key hdown
    by_cases hkey : stroke.key = key
    · subst hkey
      rw [down_snoc_self]
      by_contra hpressed
      rw [hkept (Bool.not_eq_true _ ▸ hpressed)] at hdown
      cases hdown
    · rw [down_snoc_of_ne hkey]
      exact h key hdown

end Stroke
end Sophia
