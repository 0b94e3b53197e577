import Mathlib.Algebra.Group.Nat.Defs
import Mathlib.Data.Nat.Log

/-!
# Quotients of naturals as doubles

The double that is nearest to a quotient, ties to the even one, and what is left of it without its fraction. A quotient is
scaled until its integer part has the 53 bits of a mantissa; from `2 ^ 53` on that takes a scale below one, which is not
covered.
-/

namespace Binary64

def roundHalfEven (n d : Nat) : Nat :=
  if 2 * (n % d) < d then n / d
  else if d < 2 * (n % d) then n / d + 1
  else if n / d % 2 = 0 then n / d else n / d + 1

/-- The scale: the integer part of `n * 2 ^ shift n d / d` has 53 bits. -/
def shift (n d : Nat) : Nat :=
  let estimate := 52 + Nat.log2 d - Nat.log2 n
  if 2 ^ 52 * d ≤ n * 2 ^ estimate then estimate else estimate + 1

/-- A double below `2 ^ 53` that is not negative. -/
structure Double where
  mantissa : Nat
  shift : Nat
  deriving DecidableEq, Repr

def quotient (n d : Nat) : Double where
  mantissa := roundHalfEven (n * 2 ^ shift n d) d
  shift := shift n d

def Double.truncate (x : Double) : Nat := x.mantissa / 2 ^ x.shift

-- The least double above 1/10, and a quotient that is rounded up to an integer.
example : quotient 1 10 = ⟨7205759403792794, 56⟩ ∧ (quotient 99999999999999999 1000000).truncate = 100000000000 := by
  decide +kernel

theorem div_le_roundHalfEven (n d : Nat) : n / d ≤ roundHalfEven n d := by
  rw [roundHalfEven]
  split
  · exact le_refl _
  · split
    · exact Nat.le_succ _
    · split
      · exact le_refl _
      · exact Nat.le_succ _

/-- Rounding adds half a unit at most. -/
theorem roundHalfEven_le {d : Nat} (hd : 0 < d) (n : Nat) : 2 * (d * roundHalfEven n d) ≤ 2 * n + d := by
  have hdiv := Nat.div_add_mod n d
  have hmod := Nat.mod_lt n hd
  have hup : d * (n / d + 1) = d * (n / d) + d := Nat.mul_succ _ _
  rw [roundHalfEven]
  split
  · omega
  · split
    · rw [hup]
      omega
    · split
      · omega
      · rw [hup]
        omega

/-- An integer part is not lost. -/
theorem div_le_truncate_quotient {d : Nat} (hd : 0 < d) (n : Nat) : n / d ≤ (quotient n d).truncate := by
  have hpow : 0 < 2 ^ shift n d := Nat.pow_pos Nat.two_pos
  rw [Double.truncate, quotient, Nat.le_div_iff_mul_le hpow]
  have hscaled : n / d * 2 ^ shift n d ≤ n * 2 ^ shift n d / d := by
    rw [Nat.le_div_iff_mul_le hd, Nat.mul_right_comm]
    exact Nat.mul_le_mul_right _ (Nat.div_mul_le_self n d)
  calc n / d * 2 ^ shift n d ≤ n * 2 ^ shift n d / d := hscaled
    _ ≤ roundHalfEven (n * 2 ^ shift n d) d := div_le_roundHalfEven _ _

/-- Half a unit of the scaled quotient, against the quotient. -/
theorem truncate_quotient_mul_le {d : Nat} (hd : 0 < d) (n : Nat) :
    2 * ((quotient n d).truncate * d * 2 ^ shift n d) ≤ 2 * (n * 2 ^ shift n d) + d := by
  have htruncate : (quotient n d).truncate * 2 ^ shift n d ≤ roundHalfEven (n * 2 ^ shift n d) d := Nat.div_mul_le_self _ _
  calc 2 * ((quotient n d).truncate * d * 2 ^ shift n d) = 2 * (d * ((quotient n d).truncate * 2 ^ shift n d)) := by
        rw [Nat.mul_comm _ d, Nat.mul_assoc]
    _ ≤ 2 * (d * roundHalfEven (n * 2 ^ shift n d) d) := Nat.mul_le_mul_left 2 (Nat.mul_le_mul_left d htruncate)
    _ ≤ 2 * (n * 2 ^ shift n d) + d := roundHalfEven_le hd _

/-- What is left without the fraction is less than the next integer above the quotient. -/
theorem truncate_quotient_mul_lt {d : Nat} (hd : 0 < d) (n : Nat) : (quotient n d).truncate * d < n + d := by
  have hle := truncate_quotient_mul_le hd n
  have hpow : 0 < 2 ^ shift n d := Nat.pow_pos Nat.two_pos
  by_contra hge
  have hscaled := Nat.mul_le_mul_right (2 ^ shift n d) (Nat.le_of_not_lt hge)
  rw [Nat.add_mul] at hscaled
  have hunit : d * 1 ≤ d * 2 ^ shift n d := Nat.mul_le_mul_left d hpow
  omega

/-- Numerators that a double holds keep their integer quotient: the distance to the next one is more than half a unit. -/
theorem truncate_quotient_eq_div {n d : Nat} (hd : 0 < d) (hn : n < 2 ^ 53) : (quotient n d).truncate = n / d := by
  have hlog : Nat.log2 n ≤ 52 := by
    by_cases hzero : n = 0
    · rw [hzero]
      exact Nat.zero_le _
    · exact Nat.le_of_lt_succ ((Nat.log2_lt hzero).2 hn)
  have hshift : Nat.log2 d ≤ shift n d := by
    rw [shift]
    split
    · omega
    · omega
  have hlt : d < 2 * 2 ^ shift n d := by
    calc d < 2 ^ (Nat.log2 d + 1) := Nat.lt_log2_self
      _ = 2 * 2 ^ Nat.log2 d := by rw [Nat.pow_succ, Nat.mul_comm]
      _ ≤ 2 * 2 ^ shift n d := Nat.mul_le_mul_left 2 (Nat.pow_le_pow_right Nat.two_pos hshift)
  refine Nat.le_antisymm ?_ (div_le_truncate_quotient hd n)
  rw [Nat.le_div_iff_mul_le hd]
  have hle := truncate_quotient_mul_le hd n
  by_contra hgt
  have hscaled := Nat.mul_le_mul_right (2 ^ shift n d) (Nat.succ_le_of_lt (Nat.lt_of_not_le hgt))
  rw [Nat.succ_mul] at hscaled
  omega

end Binary64
