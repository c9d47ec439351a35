import Mathlib.Data.Rat.Floor

/-!
# Fixed-width words of the switch model

The MMU's `uint32_t` counters, thresholds and sizes are `UInt32`, so a sum or difference wraps
where the C++ one does; the lemmas move a word expression to its `toNat` value for `omega`.
Doubles are rationals, and a `(uint32_t)` conversion truncates toward zero where `castDefined`
says the result is representable.
-/

namespace ConWeaveSwitch

set_option autoImplicit false

@[simp] theorem u32_toNat_lt (a : UInt32) : a.toNat < 2 ^ 32 := a.toBitVec.isLt

@[simp] theorem u32_toNat_add (a b : UInt32) : (a + b).toNat = (a.toNat + b.toNat) % 2 ^ 32 :=
  BitVec.toNat_add _ _

@[simp] theorem u32_toNat_sub (a b : UInt32) :
    (a - b).toNat = (2 ^ 32 - b.toNat + a.toNat) % 2 ^ 32 :=
  BitVec.toNat_sub _ _

@[simp] theorem u64_toNat_add (a b : UInt64) : (a + b).toNat = (a.toNat + b.toNat) % 2 ^ 64 :=
  BitVec.toNat_add _ _

@[simp] theorem u32_toNat_mul (a b : UInt32) : (a * b).toNat = a.toNat * b.toNat % 2 ^ 32 :=
  BitVec.toNat_mul _ _

theorem u32_lt_iff (a b : UInt32) : a < b ↔ a.toNat < b.toNat := Iff.rfl

theorem u32_le_iff (a b : UInt32) : a ≤ b ↔ a.toNat ≤ b.toNat := Iff.rfl

theorem u32_eq_iff (a b : UInt32) : a = b ↔ a.toNat = b.toNat :=
  ⟨congrArg UInt32.toNat, UInt32.toNat.inj⟩

theorem u32_ne_iff (a b : UInt32) : a ≠ b ↔ a.toNat ≠ b.toNat := (u32_eq_iff a b).not

@[simp] theorem u32_toNat_zero : (0 : UInt32).toNat = 0 := rfl

@[simp] theorem u32_toNat_max (a b : UInt32) : (max a b).toNat = max a.toNat b.toNat := by
  show (if a ≤ b then b else a).toNat = _
  split <;> rename_i order <;> rw [u32_le_iff] at order <;> omega

@[simp] theorem u8_toNat_toUInt16 (b : UInt8) : b.toUInt16.toNat = b.toNat := rfl

@[simp] theorem u8_toNat_toUInt32 (b : UInt8) : b.toUInt32.toNat = b.toNat := rfl

@[simp] theorem u16_toNat_toUInt8 (a : UInt16) : a.toUInt8.toNat = a.toNat % 2 ^ 8 := rfl

@[simp] theorem u32_toNat_toUInt8 (a : UInt32) : a.toUInt8.toNat = a.toNat % 2 ^ 8 := rfl

@[simp] theorem u16_toNat_or (a b : UInt16) : (a ||| b).toNat = a.toNat ||| b.toNat :=
  BitVec.toNat_or _ _

@[simp] theorem u32_toNat_or (a b : UInt32) : (a ||| b).toNat = a.toNat ||| b.toNat :=
  BitVec.toNat_or _ _

@[simp] theorem u16_toNat_shiftLeft (a b : UInt16) :
    (a <<< b).toNat = (a.toNat <<< (b.toNat % 16)) % 2 ^ 16 :=
  BitVec.toNat_shiftLeft

@[simp] theorem u32_toNat_shiftLeft (a b : UInt32) :
    (a <<< b).toNat = (a.toNat <<< (b.toNat % 32)) % 2 ^ 32 :=
  BitVec.toNat_shiftLeft

@[simp] theorem u16_toNat_shiftRight (a b : UInt16) : (a >>> b).toNat = a.toNat >>> (b.toNat % 16) :=
  BitVec.toNat_ushiftRight _ _

@[simp] theorem u32_toNat_shiftRight (a b : UInt32) : (a >>> b).toNat = a.toNat >>> (b.toNat % 32) :=
  BitVec.toNat_ushiftRight _ _

theorem u16_le_iff (a b : UInt16) : a ≤ b ↔ a.toNat ≤ b.toNat := Iff.rfl

@[simp] theorem u16_toNat_min (a b : UInt16) : (min a b).toNat = min a.toNat b.toNat := by
  show (if a ≤ b then a else b).toNat = _
  split <;> rename_i order <;> rw [u16_le_iff] at order <;> omega

theorem u8_toNat_lt (b : UInt8) : b.toNat < 2 ^ 8 := b.toNat_lt_size

theorem u16_toNat_lt (a : UInt16) : a.toNat < 2 ^ 16 := a.toNat_lt_size

theorem u32_toNat_add_of_lt {a b : UInt32} (fits : a.toNat + b.toNat < 2 ^ 32) :
    (a + b).toNat = a.toNat + b.toNat := by
  rw [u32_toNat_add]
  exact Nat.mod_eq_of_lt fits

theorem u32_toNat_sub_of_le {a b : UInt32} (below : b.toNat ≤ a.toNat) :
    (a - b).toNat = a.toNat - b.toNat := by
  have bound := u32_toNat_lt a
  rw [u32_toNat_sub]
  omega

theorem u32_toNat_add_add_sub {a b c d : UInt32} (room : a.toNat + b.toNat + c.toNat < 2 ^ 32)
    (below : d.toNat ≤ a.toNat + b.toNat + c.toNat) :
    (a + b + c - d).toNat = a.toNat + b.toNat + c.toNat - d.toNat := by
  have inner : (a + b).toNat = a.toNat + b.toNat := u32_toNat_add_of_lt (by omega)
  have outer : (a + b + c).toNat = a.toNat + b.toNat + c.toNat := by
    rw [u32_toNat_add_of_lt (by rw [inner]; omega), inner]
  rw [u32_toNat_sub_of_le (by rw [outer]; exact below), outer]

/-- C++ `(uint32_t)x` for a double `x` in the range where the conversion is defined: the
truncation toward zero. Outside `castDefined` the C++ conversion is undefined behaviour; the model
then returns the truncation of `max x 0` modulo `2^32`. -/
def doubleToUInt32 (x : ℚ) : UInt32 := UInt32.ofNat ⌊x⌋₊

def doubleToUInt16 (x : ℚ) : UInt16 := UInt16.ofNat ⌊x⌋₊

def doubleToUInt64 (x : ℚ) : UInt64 := UInt64.ofNat ⌊x⌋₊

/-! Where the CPEM divides by a threshold or an interval that a configuration may set to zero, the
double quotient of a positive numerator is `+inf` and the code takes it through `std::min` or
`std::exp(-...)` to a finite value; the two helpers below give that value. A zero numerator over a
zero denominator is a NaN in the source and has no rational reading; the helpers give the same
finite value there. -/

/-- `std::min(x / y, cap)` in doubles for `x > 0`: a zero `y` gives `+inf`, so `cap`. -/
def minQuotient (x y cap : ℚ) : ℚ := if y = 0 then cap else min (x / y) cap

/-- `std::exp(-t / y)` in doubles for `t > 0`, with `exp` the library exponential: a zero `y`
gives `exp(-inf) = 0`. -/
def expNegQuotient (exp : ℚ → ℚ) (t y : ℚ) : ℚ := if y = 0 then 0 else exp (-t / y)

theorem min_quotient_nonneg {x y cap : ℚ} (xNonneg : 0 ≤ x) (yNonneg : 0 ≤ y) (capNonneg : 0 ≤ cap) :
    0 ≤ minQuotient x y cap := by
  unfold minQuotient
  split_ifs
  · exact capNonneg
  · exact le_min (div_nonneg xNonneg yNonneg) capNonneg

theorem min_quotient_le (x y cap : ℚ) : minQuotient x y cap ≤ cap := by
  unfold minQuotient
  split_ifs
  · exact le_rfl
  · exact min_le_right _ _

theorem min_quotient_mono {x x' y cap : ℚ} (le : x ≤ x') (yNonneg : 0 ≤ y) :
    minQuotient x y cap ≤ minQuotient x' y cap := by
  unfold minQuotient
  split_ifs
  · exact le_rfl
  · exact min_le_min_right cap (div_le_div_of_nonneg_right le yNonneg)

def castDefined (x : ℚ) : Prop := -1 < x ∧ x < 2 ^ 32

instance (x : ℚ) : Decidable (castDefined x) := inferInstanceAs (Decidable (_ ∧ _))

theorem double_to_u16_toNat {x : ℚ} (below : x < 2 ^ 16) : (doubleToUInt16 x).toNat = ⌊x⌋₊ :=
  UInt16.toNat_ofNat_of_lt ((Nat.floor_lt' (by norm_num)).mpr (by exact_mod_cast below))

theorem double_to_u64_toNat {x : ℚ} (below : x < 2 ^ 64) : (doubleToUInt64 x).toNat = ⌊x⌋₊ :=
  UInt64.toNat_ofNat_of_lt ((Nat.floor_lt' (by norm_num)).mpr (by exact_mod_cast below))

end ConWeaveSwitch
