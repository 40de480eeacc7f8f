import Mathlib.Data.List.Basic
import Mathlib.Order.Basic

/-! Copying rows of bytes from one buffer into another. -/
namespace Sophia.Blit

variable {β γ : Type*}

/-- The bytes from `start` up to `stop`, if the buffer holds them all. -/
def slice? (bytes : List β) (start stop : ℕ) : Option (List β) :=
  if start ≤ stop ∧ stop ≤ bytes.length then some ((bytes.drop start).take (stop - start))
  else none

/-- Overwrite the bytes from `start` on. -/
def splice (bytes : List β) (start : ℕ) (source : List β) : List β :=
  bytes.take start ++ (source ++ bytes.drop (start + source.length))

/-- Copy `n` bytes when both ranges are in bounds. -/
def copyRow? (source target : List β) (s t n : ℕ) : Option (List β) :=
  match slice? source s (s + n), slice? target t (t + n) with
  | some row, some _ => some (splice target t row)
  | _, _ => none

/-- Copy rows at the given offsets, skipping those out of bounds, and tell whether any row was
copied. -/
def copyRows (source target : List β) (n : ℕ) (src dst : ℕ → ℕ) (rows : ℕ) : List β × Bool :=
  (List.range rows).foldl (fun state row => match copyRow? source state.1 (src row) (dst row) n with
    | some bytes => (bytes, true)
    | none => state) (target, false)

variable {source target : List β} {s t n i rows : ℕ} {src dst : ℕ → ℕ}

theorem length_splice (h : t + source.length ≤ target.length) :
    (splice target t source).length = target.length := by
  simp only [splice, List.length_append, List.length_take, List.length_drop]
  omega

theorem getElem?_splice (h : t + source.length ≤ target.length) :
    (splice target t source)[i]? =
      if t ≤ i ∧ i < t + source.length then source[i - t]? else target[i]? := by
  have htake : (target.take t).length = t := by
    rw [List.length_take]
    omega
  unfold splice
  by_cases hlow : i < t
  · rw [List.getElem?_append_left (by omega), List.getElem?_take_of_lt hlow, if_neg (by omega)]
  · rw [List.getElem?_append_right (by omega), htake]
    by_cases hhigh : i < t + source.length
    · rw [List.getElem?_append_left (by omega), if_pos ⟨by omega, hhigh⟩]
    · rw [List.getElem?_append_right (by omega), List.getElem?_drop, if_neg (by omega)]
      congr 1
      omega

/-- A slice is made of the bytes of its range. -/
theorem slice?_congr {xs ys : List β} (hn : 0 < n) (h : ∀ j < n, xs[s + j]? = ys[t + j]?) :
    slice? xs s (s + n) = slice? ys t (t + n) := by
  have hlast := h (n - 1) (by omega)
  unfold slice?
  by_cases hs : s + n ≤ xs.length
  · have ht : t + n ≤ ys.length := by
      rw [List.getElem?_eq_getElem (by omega)] at hlast
      have hsome := (List.getElem?_eq_some_iff.mp hlast.symm).1
      omega
    rw [if_pos ⟨by omega, hs⟩, if_pos ⟨by omega, ht⟩]
    refine congrArg some (List.ext_getElem? fun j => ?_)
    by_cases hj : j < n
    · rw [List.getElem?_take_of_lt (by omega), List.getElem?_take_of_lt (by omega),
        List.getElem?_drop, List.getElem?_drop]
      exact h j hj
    · rw [List.getElem?_take_eq_none (by omega), List.getElem?_take_eq_none (by omega)]
  · have ht : ¬ t + n ≤ ys.length := by
      rw [List.getElem?_eq_none (by omega)] at hlast
      have hnone := List.getElem?_eq_none_iff.mp hlast.symm
      omega
    rw [if_neg (fun h => hs h.2), if_neg (fun h => ht h.2)]

theorem slice?_splice_of_disjoint (ht : t + source.length ≤ target.length) (hn : 0 < n)
    (h : s + n ≤ t ∨ t + source.length ≤ s) :
    slice? (splice target t source) s (s + n) = slice? target s (s + n) := by
  refine slice?_congr hn fun j hj => ?_
  rw [getElem?_splice ht, if_neg (by omega)]

theorem slice?_splice_self (ht : t + source.length ≤ target.length) (hs : 0 < source.length) :
    slice? (splice target t source) t (t + source.length) = some source := by
  have he : slice? source 0 (0 + source.length) = some source := by
    unfold slice?
    rw [if_pos ⟨by omega, by omega⟩]
    simp
  rw [← he]
  refine slice?_congr hs fun j hj => ?_
  rw [getElem?_splice ht, if_pos (by omega)]
  congr 1
  omega

theorem copyRow?_eq_some {bytes : List β} (h : copyRow? source target s t n = some bytes) :
    s + n ≤ source.length ∧ t + n ≤ target.length ∧
      bytes = splice target t ((source.drop s).take n) := by
  unfold copyRow? slice? at h
  by_cases hs : s + n ≤ source.length <;> by_cases ht : t + n ≤ target.length <;>
    simp [hs, ht] at h
  exact ⟨hs, ht, h.symm⟩

theorem copyRow?_of_le (hs : s + n ≤ source.length) (ht : t + n ≤ target.length) :
    copyRow? source target s t n = some (splice target t ((source.drop s).take n)) := by
  simp [copyRow?, slice?, hs, ht]

theorem length_row (hs : s + n ≤ source.length) : ((source.drop s).take n).length = n := by
  rw [List.length_take, List.length_drop]
  omega

/-- The state after one more row. -/
theorem copyRows_succ :
    copyRows source target n src dst (rows + 1) =
      match copyRow? source (copyRows source target n src dst rows).1 (src rows) (dst rows) n with
      | some bytes => (bytes, true)
      | none => copyRows source target n src dst rows := by
  simp only [copyRows, List.range_succ, List.foldl_append, List.foldl_cons, List.foldl_nil]

theorem length_copyRows :
    (copyRows source target n src dst rows).1.length = target.length := by
  induction rows with
  | zero => rfl
  | succ rows ih =>
    rw [copyRows_succ]
    split
    · rename_i bytes he
      obtain ⟨hs, ht, rfl⟩ := copyRow?_eq_some he
      rw [length_splice (by rw [length_row hs]; exact ht), ih]
    · exact ih

/-- A byte outside all the rows keeps its value. -/
theorem copyRows_miss (h : ∀ row < rows, i < dst row ∨ dst row + n ≤ i) :
    (copyRows source target n src dst rows).1[i]? = target[i]? := by
  induction rows with
  | zero => rfl
  | succ rows ih =>
    have ih := ih fun row hr => h row (by omega)
    rw [copyRows_succ]
    split
    · rename_i bytes he
      obtain ⟨hs, ht, rfl⟩ := copyRow?_eq_some he
      rw [getElem?_splice (by rw [length_row hs]; exact ht), length_row hs, if_neg, ih]
      have hout := h rows (by omega)
      omega
    · exact ih

/-- A byte of a row comes from the source, when the rows are in bounds and do not overlap. -/
theorem copyRows_hit (source target : List β) (n : ℕ) (src dst : ℕ → ℕ) (rows : ℕ)
    (hsrc : ∀ row < rows, src row + n ≤ source.length)
    (hdst : ∀ row < rows, dst row + n ≤ target.length)
    (hsep : ∀ row row', row < row' → row' < rows → dst row + n ≤ dst row') {row j : ℕ}
    (hrow : row < rows) (hj : j < n) :
    (copyRows source target n src dst rows).1[dst row + j]? = source[src row + j]? := by
  induction rows with
  | zero => omega
  | succ rows ih =>
    have hs := hsrc rows (by omega)
    have ht : dst rows + n ≤ (copyRows source target n src dst rows).1.length := by
      rw [length_copyRows]
      exact hdst rows (by omega)
    rw [copyRows_succ, copyRow?_of_le hs ht]
    dsimp only
    rw [getElem?_splice (by rw [length_row hs]; exact ht), length_row hs]
    by_cases hlast : row = rows
    · subst hlast
      rw [if_pos (by omega), List.getElem?_take_of_lt (by omega), List.getElem?_drop]
      congr 1
      omega
    · have hbelow := hsep row rows (by omega) (by omega)
      rw [if_neg (by omega)]
      exact ih (fun r hr => hsrc r (by omega)) (fun r hr => hdst r (by omega))
        (fun r r' hlt hr => hsep r r' hlt (by omega)) (by omega)

/-- Copying tells so when the last row is in bounds. -/
theorem copyRows_copied (hs : src rows + n ≤ source.length) (ht : dst rows + n ≤ target.length) :
    (copyRows source target n src dst (rows + 1)).2 = true := by
  rw [copyRows_succ, copyRow?_of_le hs (by rw [length_copyRows]; exact ht)]

/-- Copying every row of a buffer copies the buffer. -/
theorem copyRows_whole (hs : source.length = (rows + 1) * n) (ht : target.length = (rows + 1) * n)
    (hn : 0 < n) :
    copyRows source target n (fun row => row * n) (fun row => row * n) (rows + 1) =
      (source, true) := by
  have hfit (row : ℕ) (hrow : row < rows + 1) : row * n + n ≤ (rows + 1) * n := by
    rw [← Nat.succ_mul]
    exact Nat.mul_le_mul_right n hrow
  refine Prod.ext (List.ext_getElem? fun i => ?_) ?_
  · change _ = source[i]?
    by_cases hi : i < (rows + 1) * n
    · have hrow : i / n < rows + 1 := Nat.div_lt_of_lt_mul (by rwa [Nat.mul_comm])
      have hhit := copyRows_hit source target n (fun row => row * n) (fun row => row * n) (rows + 1)
        (fun row hrow => by rw [hs]; exact hfit row hrow)
        (fun row hrow => by rw [ht]; exact hfit row hrow)
        (fun row row' hlt _ => by
          rw [← Nat.succ_mul]
          exact Nat.mul_le_mul_right n hlt) hrow (Nat.mod_lt i hn)
      rwa [Nat.div_add_mod'] at hhit
    · rw [List.getElem?_eq_none (by rw [length_copyRows]; omega), List.getElem?_eq_none (by omega)]
  · exact copyRows_copied (by rw [hs]; exact hfit rows (by omega))
      (by rw [ht]; exact hfit rows (by omega))

theorem map_splice (f : β → γ) :
    splice (target.map f) t (source.map f) = (splice target t source).map f := by
  simp [splice, List.map_take, List.map_drop]

theorem copyRow?_map (f : β → γ) :
    copyRow? (source.map f) (target.map f) s t n = (copyRow? source target s t n).map (List.map f) := by
  by_cases hs : s + n ≤ source.length <;> by_cases ht : t + n ≤ target.length <;>
    simp [copyRow?, slice?, hs, ht, ← map_splice, List.map_take, List.map_drop]

/-- Copying looks at no byte: it commutes with any change of the bytes. -/
theorem copyRows_map (f : β → γ) :
    copyRows (source.map f) (target.map f) n src dst rows =
      ((copyRows source target n src dst rows).1.map f, (copyRows source target n src dst rows).2) := by
  induction rows with
  | zero => rfl
  | succ rows ih =>
    rw [copyRows_succ, copyRows_succ, ih, copyRow?_map]
    cases copyRow? source (copyRows source target n src dst rows).1 (src rows) (dst rows) n <;> rfl

end Sophia.Blit
