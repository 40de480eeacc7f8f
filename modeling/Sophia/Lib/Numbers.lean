import Mathlib.Algebra.Group.Int.Defs
import Mathlib.Algebra.Order.Ring.Nat
import Mathlib.Data.Nat.GCD.Basic
import Mathlib.Data.Nat.ModEq

/-! Signed 32-bit arithmetic that stops the program when it overflows. -/
namespace Sophia.I32

/-- The number is that of an `i32`. -/
def Fits (z : ℤ) : Prop := -2 ^ 31 ≤ z ∧ z < 2 ^ 31

instance (z : ℤ) : Decidable (Fits z) := inferInstanceAs (Decidable (_ ∧ _))

/-- Why the program stops. -/
inductive Panic where
  | overflow
  deriving DecidableEq, Repr

/-- The `i32` of the number, or a panic. -/
def ofInt (z : ℤ) : Except Panic Int32 := if Fits z then .ok (Int32.ofInt z) else .error .overflow

def add (a b : Int32) : Except Panic Int32 := ofInt (a.toInt + b.toInt)

def sub (a b : Int32) : Except Panic Int32 := ofInt (a.toInt - b.toInt)

def mul (a b : Int32) : Except Panic Int32 := ofInt (a.toInt * b.toInt)

/-- `a / b`, rounded towards zero. -/
def div (a b : Int32) : Except Panic Int32 := ofInt (a.toInt.tdiv b.toInt)

def neg (a : Int32) : Except Panic Int32 := ofInt (-a.toInt)

/-- The distance from zero; the lowest number has none. -/
def abs (a : Int32) : Except Panic Int32 := ofInt a.toInt.natAbs

variable {z : ℤ} {a b : Int32}

theorem fits_toInt (a : Int32) : Fits a.toInt := ⟨Int32.le_toInt a, Int32.toInt_lt a⟩

theorem toInt_ofInt (h : Fits z) : (Int32.ofInt z).toInt = z :=
  Int32.toInt_ofInt_of_le h.1 h.2

theorem ofInt_eq (h : Fits z) : ofInt z = .ok (Int32.ofInt z) := if_pos h

/-- Arithmetic goes on exactly with the `i32` that has the result's value. -/
theorem ofInt_eq_ok {c : Int32} : ofInt z = .ok c ↔ c.toInt = z := by
  constructor
  · intro h
    rw [ofInt] at h
    split at h
    · rename_i hz
      cases h
      exact toInt_ofInt hz
    · cases h
  · rintro rfl
    rw [ofInt_eq (fits_toInt c), Int32.ofInt_toInt]

theorem fits_natCast {n : ℕ} (h : n ≤ a.toInt) : Fits n := by
  have ha := fits_toInt a
  exact ⟨by omega, Int.lt_of_le_of_lt h ha.2⟩

theorem toInt_max (a b : Int32) : (max a b).toInt = max a.toInt b.toInt := by
  show (if a ≤ b then b else a).toInt = _
  by_cases h : a ≤ b
  · rw [if_pos h, Int.max_eq_right (Int32.le_iff_toInt_le.mp h)]
  · rw [if_neg h, Int.max_eq_left (Int.le_of_lt (Int32.lt_iff_toInt_lt.mp (Int32.not_le.mp h)))]

theorem toInt_min (a b : Int32) : (min a b).toInt = min a.toInt b.toInt := by
  show (if a ≤ b then a else b).toInt = _
  by_cases h : a ≤ b
  · rw [if_pos h, Int.min_eq_left (Int32.le_iff_toInt_le.mp h)]
  · rw [if_neg h, Int.min_eq_right (Int.le_of_lt (Int32.lt_iff_toInt_lt.mp (Int32.not_le.mp h)))]

end Sophia.I32

/-! Numbers cut to a few bits, and when two of them come out the same. -/
namespace Sophia.Folded

variable {bits a b c d p : ℕ}

/-- The low bits of a number; zero is counted as one. -/
def cut (bits n : ℕ) : ℕ := max (n % 2 ^ bits) 1

theorem cut_eq_iff : cut bits a = cut bits b ↔
    a % 2 ^ bits = b % 2 ^ bits ∨ a % 2 ^ bits ≤ 1 ∧ b % 2 ^ bits ≤ 1 := by
  unfold cut
  omega

theorem cut_congr (h : a % 2 ^ bits = b % 2 ^ bits) : cut bits a = cut bits b :=
  cut_eq_iff.mpr (.inl h)

theorem cut_lt (hbits : 1 < 2 ^ bits) : cut bits a < 2 ^ bits :=
  Nat.max_lt.mpr ⟨Nat.mod_lt a (Nat.two_pow_pos bits), hbits⟩

theorem bool_xor_swap : ∀ a b c d : Bool, (a ^^ b) = (c ^^ d) → (a ^^ c) = (b ^^ d) := by
  decide

theorem xor_swap (h : a ^^^ b = c ^^^ d) : a ^^^ c = b ^^^ d := by
  refine Nat.eq_of_testBit_eq fun i => ?_
  have hi := congrArg (·.testBit i) h
  simp only [Nat.testBit_xor] at hi ⊢
  exact bool_xor_swap _ _ _ _ hi

/-- The low bits of two pairs combine to the same exactly when each side differs alike. -/
theorem xor_mod_eq_iff : (a ^^^ b) % 2 ^ bits = (c ^^^ d) % 2 ^ bits ↔
    (a ^^^ c) % 2 ^ bits = (b ^^^ d) % 2 ^ bits := by
  simp only [Nat.xor_mod_two_pow]
  exact ⟨xor_swap, xor_swap⟩

theorem xor_mod_congr (h : a % 2 ^ bits = b % 2 ^ bits) :
    (a ^^^ c) % 2 ^ bits = (b ^^^ c) % 2 ^ bits := by
  rw [Nat.xor_mod_two_pow, h, ← Nat.xor_mod_two_pow]

/-- An odd factor loses nothing of the low bits. -/
theorem mul_mod_eq_iff (hp : Nat.Coprime (2 ^ bits) p) :
    a * p % 2 ^ bits = b * p % 2 ^ bits ↔ a % 2 ^ bits = b % 2 ^ bits :=
  ⟨Nat.ModEq.cancel_right_of_coprime hp, Nat.ModEq.mul_right p⟩

theorem xor_eq_zero_iff : a ^^^ b = 0 ↔ a = b := by
  constructor
  · intro h
    have hswap : a ^^^ 0 = b ^^^ 0 := xor_swap (h.trans (Nat.xor_self 0).symm)
    rwa [Nat.xor_zero, Nat.xor_zero] at hswap
  · rintro rfl
    exact Nat.xor_self a

/-- Two numbers combine to less than two when they agree but for the lowest bit. -/
theorem xor_le_one_iff : a ^^^ b ≤ 1 ↔ a / 2 = b / 2 := by
  have hdiv : (a ^^^ b) / 2 = a / 2 ^^^ b / 2 := Nat.xor_div_two
  rw [← xor_eq_zero_iff, ← hdiv]
  omega

/-- A tag above the bits tells nothing apart. -/
theorem tag_inj {tag : ℕ} (ha : a < 2 ^ bits) (hb : b < 2 ^ bits) :
    2 ^ bits * tag ||| a = 2 ^ bits * tag ||| b ↔ a = b := by
  rw [← Nat.two_pow_add_eq_or_of_lt ha, ← Nat.two_pow_add_eq_or_of_lt hb]
  exact Nat.add_left_cancel_iff

end Sophia.Folded

/-! A length cut into strips of one width, of which the last takes what is left over. -/
namespace Sophia.Strips

variable {total count i j k : ℕ}

def start (total count i : ℕ) : ℕ := total / count * i

def stop (total count i : ℕ) : ℕ := if i + 1 = count then total else total / count * (i + 1)

theorem stop_le (hi : i < count) : stop total count i ≤ total := by
  unfold stop
  split
  · exact le_refl total
  · calc total / count * (i + 1) ≤ total / count * count := Nat.mul_le_mul_left _ hi
      _ ≤ total := Nat.div_mul_le_self total count

theorem start_succ_le_stop : start total count (i + 1) ≤ stop total count i := by
  unfold start stop
  split
  · rename_i he
    rw [he]
    exact Nat.div_mul_le_self total count
  · exact le_refl _

/-- No strip is empty when there are no more strips than units. -/
theorem start_lt_stop (hcount : count ≤ total) (hi : i < count) :
    start total count i < stop total count i := by
  have hwidth : 0 < total / count := Nat.div_pos hcount (by omega)
  calc start total count i < start total count (i + 1) := by
        unfold start
        exact Nat.mul_lt_mul_of_pos_left (Nat.lt_succ_self i) hwidth
    _ ≤ stop total count i := start_succ_le_stop

/-- A strip ends where a later one has not begun. -/
theorem stop_le_start (hij : i < j) (hj : j < count) :
    stop total count i ≤ start total count j := by
  unfold start stop
  rw [if_neg (by omega)]
  exact Nat.mul_le_mul_left _ hij

/-- Every unit of the length is in a strip. -/
theorem exists_strip (hcount : 0 < count) (hk : k < total) :
    ∃ i < count, start total count i ≤ k ∧ k < stop total count i := by
  by_cases hlast : total / count * (count - 1) ≤ k
  · refine ⟨count - 1, by omega, hlast, ?_⟩
    rwa [stop, if_pos (by omega)]
  · have hwidth : 0 < total / count := by
      by_contra hzero
      rw [Nat.eq_zero_of_not_pos hzero, Nat.zero_mul] at hlast
      omega
    have hi : k / (total / count) < count - 1 := by
      rw [Nat.div_lt_iff_lt_mul hwidth, Nat.mul_comm]
      omega
    refine ⟨k / (total / count), by omega, Nat.mul_div_le k _, ?_⟩
    rw [stop, if_neg (by omega)]
    exact Nat.lt_mul_div_succ k hwidth

end Sophia.Strips
