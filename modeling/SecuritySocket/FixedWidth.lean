import Mathlib.Algebra.Group.Int.Defs
import Mathlib.Algebra.Group.Nat.Defs
import Mathlib.Tactic.Common

/-!
# Fixed-width conversions

C++ code that mixes `size_t` lengths with `int32_t` byte counts converts between
the two at every call boundary.  A length is a `Nat` below `2 ^ 64`, a byte count an
`Int`; the operations here are the ones such code performs on them, with the
wrap-around written out.  The lemmas say when a conversion changes nothing.
-/

namespace SecuritySocket.FixedWidth

/-- `a + b` on `size_t`. -/
def sizeAdd (a b : Nat) : Nat := (a + b) % 2 ^ 64

/-- `a - b` on `size_t`, for operands below `2 ^ 64`. -/
def sizeSub (a b : Nat) : Nat := (a + (2 ^ 64 - b)) % 2 ^ 64

/-- `static_cast<int32_t>(n)` of a `size_t`: the low 32 bits, read as signed. -/
def toInt32 (n : Nat) : Int :=
  if n % 2 ^ 32 < 2 ^ 31 then (n % 2 ^ 32 : Nat) else ((n % 2 ^ 32 : Nat) : Int) - 2 ^ 32

/-- Conversion of a signed integer to `size_t`: reduction modulo `2 ^ 64`. -/
def toSize (i : Int) : Nat := (i % 2 ^ 64).toNat

/-- A length that went through `int32_t` on its way to a `size_t` parameter. -/
def narrow (n : Nat) : Nat := toSize (toInt32 n)

theorem sizeAdd_eq {a b : Nat} (h : a + b < 2 ^ 64) : sizeAdd a b = a + b :=
  Nat.mod_eq_of_lt h

theorem sizeSub_eq {a b : Nat} (hle : b ≤ a) (ha : a < 2 ^ 64) : sizeSub a b = a - b := by
  unfold sizeSub; omega

theorem toInt32_of_lt {n : Nat} (h : n < 2 ^ 31) : toInt32 n = n := by
  unfold toInt32; split <;> omega

theorem toSize_natCast {n : Nat} (h : n < 2 ^ 64) : toSize (n : Int) = n := by
  unfold toSize; omega

theorem toSize_neg {i : Int} (hneg : i < 0) (hlow : -2 ^ 31 ≤ i) :
    toSize i = 2 ^ 64 - i.natAbs := by
  unfold toSize; omega

theorem narrow_of_small {n : Nat} (h : n % 2 ^ 32 < 2 ^ 31) : narrow n = n % 2 ^ 32 := by
  unfold narrow toInt32
  rw [if_pos h]
  exact toSize_natCast (by omega)

theorem narrow_of_large {n : Nat} (h : 2 ^ 31 ≤ n % 2 ^ 32) :
    narrow n = 2 ^ 64 - 2 ^ 32 + n % 2 ^ 32 := by
  unfold narrow toInt32 toSize
  rw [if_neg (by omega)]
  omega

theorem narrow_of_lt {n : Nat} (h : n < 2 ^ 31) : narrow n = n := by
  rw [narrow_of_small (by omega)]; omega

/-- Narrowing keeps a length below `2 ^ 63` from growing exactly when its low half is
    not read as negative. -/
theorem narrow_le_iff {n bound : Nat} (hbound : bound < 2 ^ 63) :
    narrow n ≤ bound ↔ n % 2 ^ 32 < 2 ^ 31 ∧ n % 2 ^ 32 ≤ bound := by
  by_cases h : n % 2 ^ 32 < 2 ^ 31
  · rw [narrow_of_small h]; omega
  · rw [narrow_of_large (by omega)]; omega

/-- Whatever narrowing did to a length, the part of it one call can move never
    exceeds the length itself. -/
theorem min_narrow_le {n limit : Nat} (hlimit : limit < 2 ^ 31) : min (narrow n) limit ≤ n := by
  by_cases h : n % 2 ^ 32 < 2 ^ 31
  · rw [narrow_of_small h]; omega
  · rw [narrow_of_large (by omega)]; omega

theorem narrow_sub {n k : Nat} (hn : n % 2 ^ 32 < 2 ^ 31) (hk : k ≤ n % 2 ^ 32) :
    narrow (n - k) = n % 2 ^ 32 - k := by
  rw [narrow_of_small (by omega)]; omega

/-- The low half of a length, as a number of its own, is positive and not read as negative. -/
def LowHalf (n : Nat) : Prop := 1 ≤ n % 2 ^ 32 ∧ n % 2 ^ 32 < 2 ^ 31

instance (n : Nat) : Decidable (LowHalf n) := inferInstanceAs (Decidable (_ ∧ _))

theorem toInt32_between_iff {n : Nat} : 1 ≤ toInt32 n ∧ toInt32 n ≤ n ↔ LowHalf n := by
  unfold toInt32 LowHalf
  split <;> omega

theorem narrow_between_iff {n : Nat} (hn : n < 2 ^ 64) :
    1 ≤ narrow n ∧ narrow n ≤ n ↔ LowHalf n ∨ 2 ^ 64 - 2 ^ 31 ≤ n := by
  unfold LowHalf
  by_cases h : n % 2 ^ 32 < 2 ^ 31
  · rw [narrow_of_small h]
    omega
  · rw [narrow_of_large (by omega)]
    omega

theorem one_le_byte_succ (b : UInt8) : 1 ≤ b.toNat + 1 := Nat.le_add_left 1 b.toNat

theorem byte_succ_lt (b : UInt8) : b.toNat + 1 < 2 ^ 31 :=
  Nat.lt_of_lt_of_le (Nat.succ_lt_succ b.toNat_lt) (by decide)

end SecuritySocket.FixedWidth
