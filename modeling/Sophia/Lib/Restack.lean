import Mathlib.Data.List.Nodup

/-! Moving one element of a list without repetitions, the others keeping their order. -/
namespace Sophia.Restack

variable {α : Type*} {l : List α} {x y : α} {i : ℕ}

theorem insertIdx_split (h : i ≤ l.length) :
    ∃ pre post, l = pre ++ post ∧ pre.length = i ∧ l.insertIdx i x = pre ++ x :: post := by
  induction l generalizing i with
  | nil =>
    obtain rfl : i = 0 := by simpa using h
    exact ⟨[], [], rfl, rfl, rfl⟩
  | cons a l ih =>
    cases i with
    | zero => exact ⟨[], a :: l, rfl, rfl, rfl⟩
    | succ i =>
      obtain ⟨pre, post, he, hlen, hins⟩ := ih (by simpa using h)
      refine ⟨a :: pre, post, by simp [← he], by simp [hlen], ?_⟩
      rw [List.insertIdx_succ_cons, hins]
      rfl

/-- No element of a list without repetitions stands next to itself. -/
theorem not_beside_self (h : l.Nodup) (pre post : List α) : l ≠ pre ++ x :: x :: post := by
  rintro rfl
  have hx := (List.nodup_cons.mp (List.nodup_append.mp h).2.1).1
  exact hx List.mem_cons_self

variable [DecidableEq α]

/-- The list without one element. -/
def others (x : α) (l : List α) : List α := l.filter (· ≠ x)

/-- The element taken out and put back at an index of the others. -/
def moveTo (x : α) (i : ℕ) (l : List α) : List α :=
  (others x l).insertIdx (min i (others x l).length) x

theorem mem_others : y ∈ others x l ↔ y ∈ l ∧ y ≠ x := by simp [others]

theorem notMem_others : x ∉ others x l := fun h => (mem_others.mp h).2 rfl

theorem others_of_notMem (h : x ∉ l) : others x l = l := by
  refine List.filter_eq_self.mpr fun y hy => ?_
  have hne : y ≠ x := fun he => h (he ▸ hy)
  simpa using hne

/-- The others are cut in two and the element stands in between. -/
theorem moveTo_split (x : α) (i : ℕ) (l : List α) :
    ∃ pre post, others x l = pre ++ post ∧ pre.length = min i (others x l).length ∧
      moveTo x i l = pre ++ x :: post :=
  insertIdx_split (Nat.min_le_right _ _)

@[simp] theorem others_moveTo : others x (moveTo x i l) = others x l := by
  obtain ⟨pre, post, he, -, hmove⟩ := moveTo_split x i l
  have hx : x ∉ pre ++ post := he ▸ notMem_others
  obtain ⟨hpre, hpost⟩ := not_or.mp (mt List.mem_append.mpr hx)
  rw [hmove, he, others, List.filter_append, List.filter_cons_of_neg (by simp)]
  exact congrArg₂ (· ++ ·) (others_of_notMem hpre) (others_of_notMem hpost)

theorem mem_moveTo : y ∈ moveTo x i l ↔ y = x ∨ y ∈ l := by
  obtain ⟨pre, post, he, -, hmove⟩ := moveTo_split x i l
  have hmem : y ∈ pre ++ post ↔ y ∈ l ∧ y ≠ x := by rw [← he, mem_others]
  rw [hmove, List.mem_append, List.mem_cons]
  rw [List.mem_append] at hmem
  by_cases hy : y = x
  · simp [hy]
  · constructor
    · rintro (h | h | h)
      · exact Or.inr (hmem.mp (Or.inl h)).1
      · exact Or.inl h
      · exact Or.inr (hmem.mp (Or.inr h)).1
    · rintro (h | h)
      · exact Or.inr (Or.inl h)
      · rcases hmem.mpr ⟨h, hy⟩ with h | h
        · exact Or.inl h
        · exact Or.inr (Or.inr h)

theorem nodup_others (h : l.Nodup) : (others x l).Nodup := h.filter _

theorem nodup_moveTo (h : l.Nodup) : (moveTo x i l).Nodup := by
  obtain ⟨pre, post, he, -, hmove⟩ := moveTo_split x i l
  rw [hmove, List.nodup_middle, List.nodup_cons, ← he]
  exact ⟨notMem_others, nodup_others h⟩

theorem moveTo_top (h : (others x l).length ≤ i) : moveTo x i l = others x l ++ [x] := by
  rw [moveTo, Nat.min_eq_right h, List.insertIdx_length_self]

theorem moveTo_bottom : moveTo x 0 l = x :: others x l := by
  rw [moveTo, Nat.zero_min, List.insertIdx_zero]

/-- An element that stands last stays where it is when it is moved to the end. -/
theorem others_append_eq_iff (h : l.Nodup) (hx : x ∈ l) :
    others x l ++ [x] = l ↔ l.getLast? = some x := by
  constructor
  · intro he
    rw [← he, List.getLast?_append_cons, List.getLast?_singleton]
  · intro hlast
    obtain ⟨pre, rfl⟩ := List.getLast?_eq_some_iff.mp hlast
    have hpre : x ∉ pre := fun hm => (List.nodup_append.mp h).2.2 x hm x (by simp) rfl
    rw [others, List.filter_append, List.filter_cons_of_neg (by simp), List.filter_nil,
      List.append_nil]
    exact congrArg (· ++ [x]) (others_of_notMem hpre)

/-- The position of an element splits the list around it. -/
theorem split_of_findIdx? (h : l.findIdx? (· = y) = some i) :
    ∃ pre post, l = pre ++ y :: post ∧ pre.length = i := by
  obtain ⟨hlt, hy, -⟩ := List.findIdx?_eq_some_iff_getElem.mp h
  have hy : l[i] = y := by simpa using hy
  refine ⟨l.take i, l.drop (i + 1), ?_, List.length_take_of_le (Nat.le_of_lt hlt)⟩
  rw [← hy, List.getElem_cons_drop, List.take_append_drop]

/-- Moved to the index of another element, it stands directly before it. -/
theorem moveTo_before (h : (others x l).findIdx? (· = y) = some i) :
    ∃ pre post, moveTo x i l = pre ++ x :: y :: post := by
  obtain ⟨pre, post, he, hlen⟩ := split_of_findIdx? h
  obtain ⟨pre', post', he', hlen', hmove⟩ := moveTo_split x i l
  have hmin : min i (others x l).length = i := by
    rw [he, List.length_append]
    omega
  have hpre : pre' = pre ∧ post' = y :: post :=
    List.append_inj (he'.symm.trans he) (by omega)
  exact ⟨pre, post, by rw [hmove, hpre.1, hpre.2]⟩

/-- Moved past the index of another element, it stands directly after it. -/
theorem moveTo_after (h : (others x l).findIdx? (· = y) = some i) :
    ∃ pre post, moveTo x (i + 1) l = pre ++ y :: x :: post := by
  obtain ⟨pre, post, he, hlen⟩ := split_of_findIdx? h
  obtain ⟨pre', post', he', hlen', hmove⟩ := moveTo_split x (i + 1) l
  have hmin : min (i + 1) (others x l).length = i + 1 := by
    rw [he, List.length_append, List.length_cons]
    omega
  have hsnoc : others x l = (pre ++ [y]) ++ post := by simp [he]
  have hpre : pre' = pre ++ [y] ∧ post' = post :=
    List.append_inj (he'.symm.trans hsnoc) (by simp; omega)
  exact ⟨pre, post, by rw [hmove, hpre.1, hpre.2]; simp⟩

theorem find?_others {p : α → Bool} (h : p x = false) : (others x l).find? p = l.find? p := by
  induction l with
  | nil => rfl
  | cons a l ih =>
    by_cases ha : a = x
    · rw [ha, others, List.filter_cons_of_neg (by simp), List.find?_cons_of_neg (by simp [h])]
      exact ih
    · rw [others, List.filter_cons_of_pos (by simpa using ha), List.find?_cons, List.find?_cons]
      cases p a
      · exact ih
      · rfl

theorem others_reverse : others x l.reverse = (others x l).reverse := List.filter_reverse

end Sophia.Restack
