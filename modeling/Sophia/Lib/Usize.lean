import Mathlib.Algebra.GroupWithZero.Nat
import Sophia.Lib.Blit
import Sophia.Lib.Fallible

/-! Sizes and offsets of a 64-bit machine: arithmetic that saturates, that checks, or that stops the
program, and slices taken at such offsets. -/
namespace Sophia.Usize

universe u

/-- One above the largest size. -/
def bound : ℕ := 2 ^ 64

/-- Why the program stops. -/
inductive Panic where
  | overflow
  | outOfBounds
  | lengthMismatch
  deriving DecidableEq, Repr

def saturatingAdd (a b : ℕ) : ℕ := min (a + b) (bound - 1)

def saturatingMul (a b : ℕ) : ℕ := min (a * b) (bound - 1)

def checkedAdd (a b : ℕ) : Option ℕ := if a + b < bound then some (a + b) else none

def checkedMul (a b : ℕ) : Option ℕ := if a * b < bound then some (a * b) else none

/-- `a + b`, which overflows into a panic. -/
def add (a b : ℕ) : Except Panic ℕ := if a + b < bound then .ok (a + b) else .error .overflow

/-- `a * b`, which overflows into a panic. -/
def mul (a b : ℕ) : Except Panic ℕ := if a * b < bound then .ok (a * b) else .error .overflow

variable {β : Type u} {a b : ℕ}

theorem saturatingAdd_eq (h : a + b < bound) : saturatingAdd a b = a + b := by
  unfold saturatingAdd
  omega

theorem saturatingMul_eq (h : a * b < bound) : saturatingMul a b = a * b := by
  unfold saturatingMul
  omega

theorem checkedAdd_eq (h : a + b < bound) : checkedAdd a b = some (a + b) := if_pos h

theorem checkedMul_eq (h : a * b < bound) : checkedMul a b = some (a * b) := if_pos h

theorem add_eq (h : a + b < bound) : add a b = .ok (a + b) := if_pos h

theorem mul_eq (h : a * b < bound) : mul a b = .ok (a * b) := if_pos h

/-- `target.copy_from_slice(source)` at the bytes of the target from `t` up to `t + old.length`. -/
def copyFromSlice (target : List β) (t : ℕ) (old row : List β) : Except Panic (List β) :=
  if row.length = old.length then .ok (Blit.splice target t row) else .error .lengthMismatch

/-- A row is copied where both of its ranges are in bounds, and left out elsewhere. -/
def copyRow (source target : List β) (s t n : ℕ) : Except Panic (Option (List β)) :=
  match Blit.slice? source s (saturatingAdd s n) with
  | none => .ok none
  | some row => match Blit.slice? target t (saturatingAdd t n) with
    | none => .ok none
    | some old => (copyFromSlice target t old row).map some

theorem length_of_slice? {bytes slice : List β} {start stop : ℕ}
    (h : Blit.slice? bytes start stop = some slice) : slice.length = stop - start := by
  unfold Blit.slice? at h
  split at h
  · cases h
    rw [List.length_take, List.length_drop]
    omega
  · cases h

/-- Below the largest size no offset saturates, and the two ranges have one length. -/
theorem copyRow_eq {source target : List β} {s t n : ℕ} (hs : s + n < bound) (ht : t + n < bound) :
    copyRow source target s t n = .ok (Blit.copyRow? source target s t n) := by
  unfold copyRow Blit.copyRow?
  rw [saturatingAdd_eq hs, saturatingAdd_eq ht]
  cases hrow : Blit.slice? source s (s + n) with
  | none => rfl
  | some row =>
    cases hold : Blit.slice? target t (t + n) with
    | none => rfl
    | some old =>
      have hlength : row.length = old.length := by
        rw [length_of_slice? hrow, length_of_slice? hold]
        omega
      simp only [copyFromSlice, if_pos hlength]
      rfl

end Sophia.Usize
