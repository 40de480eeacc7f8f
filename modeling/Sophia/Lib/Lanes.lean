import Mathlib.Data.List.Basic

/-! Items that wait in a queue and leave it in the order they came, lane by lane. -/
namespace Sophia.Lanes

variable {α κ : Type*} [DecidableEq κ] (key : α → κ)

/-- The items of one lane. -/
def lane (k : κ) (xs : List α) : List α := xs.filter fun x => key x = k

/-- In every lane, what left and what still waits came in this order. -/
def InOrder (out pending arrivals : List α) : Prop :=
  ∀ k, (lane key k (out ++ pending)).Sublist (lane key k arrivals)

/-- No lane has items of both lists. -/
def Apart (xs ys : List α) : Prop := ∀ x ∈ xs, ∀ y ∈ ys, key x ≠ key y

/-- Lane by lane the lists are the same. -/
def SameLanes (xs ys : List α) : Prop := ∀ k, lane key k xs = lane key k ys

instance (xs ys : List α) : Decidable (Apart key xs ys) :=
  inferInstanceAs (Decidable (∀ x ∈ xs, ∀ y ∈ ys, key x ≠ key y))

variable {key} {k : κ} {x : α} {xs ys zs out pending arrivals : List α}

@[simp] theorem lane_nil : lane key k [] = [] := rfl

@[simp] theorem lane_append : lane key k (xs ++ ys) = lane key k xs ++ lane key k ys :=
  List.filter_append xs ys

theorem lane_eq_nil : lane key k xs = [] ↔ ∀ x ∈ xs, key x ≠ k := by
  simp [lane, List.filter_eq_nil_iff]

theorem lane_sublist (h : xs.Sublist ys) : (lane key k xs).Sublist (lane key k ys) := h.filter _

theorem inOrder_nil : InOrder key [] [] arrivals := fun _ => List.nil_sublist _

/-- Of two lists that are apart each lane shows up in one only. -/
theorem Apart.lane_comm (h : Apart key xs ys) :
    lane key k xs ++ lane key k ys = lane key k ys ++ lane key k xs := by
  by_cases hxs : lane key k xs = []
  · simp [hxs]
  · have hys : lane key k ys = [] := by
      simp only [lane_eq_nil, not_forall, not_not] at hxs
      obtain ⟨x, hx, rfl⟩ := hxs
      exact lane_eq_nil.mpr fun y hy => (h x hx y hy).symm
    simp [hys]

theorem InOrder.arrive (h : InOrder key out pending arrivals) :
    InOrder key out (pending ++ [x]) (arrivals ++ [x]) := by
  intro k
  have hk := (h k).append (List.Sublist.refl (lane key k [x]))
  simpa only [lane_append, List.append_assoc] using hk

theorem InOrder.discard (h : InOrder key out ys arrivals) (hsub : xs.Sublist ys) :
    InOrder key out xs arrivals := by
  intro k
  exact (lane_sublist ((List.Sublist.refl out).append hsub)).trans (h k)

/-- An item leaves when those before it are all in other lanes. -/
theorem InOrder.deliver (h : InOrder key out (xs ++ x :: ys) arrivals)
    (hapart : Apart key xs [x]) : InOrder key (out ++ [x]) (xs ++ ys) arrivals := by
  intro k
  have hk := h k
  have hcons : xs ++ x :: ys = (xs ++ [x]) ++ ys := by simp
  rw [hcons, lane_append, lane_append, lane_append, hapart.lane_comm] at hk
  simpa only [lane_append, List.append_assoc] using hk

theorem InOrder.swap (h : InOrder key out (xs ++ ys) arrivals) (hapart : Apart key xs ys) :
    InOrder key out (ys ++ xs) arrivals := by
  intro k
  have hk := h k
  rw [lane_append, lane_append, hapart.lane_comm] at hk
  simpa only [lane_append] using hk

theorem SameLanes.refl (xs : List α) : SameLanes key xs xs := fun _ => rfl

/-- An item overtakes those of other lanes. -/
theorem sameLanes_deliver (out ys : List α) (hapart : Apart key xs [x]) :
    SameLanes key (out ++ [x] ++ (xs ++ ys)) (out ++ (xs ++ x :: ys)) := by
  intro k
  have hcons : xs ++ x :: ys = (xs ++ [x]) ++ ys := by simp
  rw [hcons]
  simp only [lane_append, List.append_assoc]
  rw [← List.append_assoc (lane key k [x]), ← hapart.lane_comm, List.append_assoc]

/-- The items of one lane overtake all others. -/
theorem sameLanes_lane (k : κ) :
    SameLanes key (out ++ lane key k xs ++ xs.filter fun x => key x ≠ k) (out ++ xs) := by
  intro k'
  rw [List.append_assoc, lane_append, lane_append, lane_append]
  refine congrArg _ ?_
  unfold lane
  rw [List.filter_filter, List.filter_filter]
  by_cases hk : k' = k
  · subst hk
    simp
  · have hnone : ∀ x ∈ xs, ¬ (decide (key x = k') && decide (key x = k)) = true := by
      intro x _ hx
      simp only [Bool.and_eq_true, decide_eq_true_eq] at hx
      exact hk (hx.1.symm.trans hx.2)
    rw [List.filter_eq_nil_iff.mpr hnone, List.nil_append]
    refine List.filter_congr fun x _ => ?_
    by_cases hx : key x = k'
    · simp [hx, hk]
    · simp [hx]

end Sophia.Lanes

/-! Lists that lost only elements they may lose, judged by what comes after each of them. -/
namespace Sophia.Losses

variable {α : Type*}

/-- The second list is left of the first: an element may be missing where `loses` allows it in view
of the elements behind it and then those of `rest`. -/
inductive Thinned (loses : α → List α → Prop) (rest : List α) : List α → List α → Prop
  | nil : Thinned loses rest [] []
  | keep (x : α) {xs ys : List α} (h : Thinned loses rest xs ys) :
      Thinned loses rest (x :: xs) (x :: ys)
  | lose {x : α} {xs ys : List α} (hloses : loses x (xs ++ rest)) (h : Thinned loses rest xs ys) :
      Thinned loses rest (x :: xs) ys

variable {loses : α → List α → Prop} {rest more xs ys : List α} {x : α}

/-- What may go in view of some elements may go when more of them follow. -/
theorem Thinned.append_rest (more : List α)
    (hmono : ∀ x after more, loses x after → loses x (after ++ more))
    (h : Thinned loses rest xs ys) : Thinned loses (rest ++ more) xs ys := by
  induction h with
  | nil => exact .nil
  | keep x _ ih => exact .keep x ih
  | lose hloses _ ih =>
    refine .lose ?_ ih
    rw [← List.append_assoc]
    exact hmono _ _ _ hloses

theorem Thinned.snoc_keep (h : Thinned loses (x :: rest) xs ys) :
    Thinned loses rest (xs ++ [x]) (ys ++ [x]) := by
  induction h with
  | nil => exact .keep x .nil
  | keep y _ ih => exact .keep y ih
  | lose hloses _ ih =>
    refine .lose ?_ ih
    show loses _ (_ ++ [x] ++ rest)
    rwa [List.append_assoc]

theorem Thinned.snoc_lose (hloses : loses x rest) (h : Thinned loses (x :: rest) xs ys) :
    Thinned loses rest (xs ++ [x]) ys := by
  induction h with
  | nil => exact .lose hloses .nil
  | keep y _ ih => exact .keep y ih
  | lose hearlier _ ih =>
    refine .lose ?_ ih
    show loses _ (_ ++ [x] ++ rest)
    rwa [List.append_assoc]

/-- With nothing to follow, elements may be kept one after another. -/
theorem Thinned.append_keep (h : Thinned loses xs ys more) :
    Thinned loses [] (ys ++ xs) (more ++ xs) := by
  induction xs generalizing ys more with
  | nil => simpa using h
  | cons x xs ih => simpa using ih h.snoc_keep

end Sophia.Losses
