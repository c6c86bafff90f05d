import Mathlib.Tactic.Ring
import PromptContract.Number.Binary64

/-!
# Integers as floating-point numbers

An integer is rounded to 53 binary digits, and is beyond the format where that comes to `2^1024`.
The rounding decides only at the very end (`lt_divNearest_iff`): from halfway between the greatest
finite number and `2^1024` on an integer has no finite number next to it (`ofInt?_isSome_iff`).
-/

namespace PromptContract.Binary64

/-! ## Rounding to whole numbers -/

/-- Rounding goes up to the next whole number at most. -/
theorem divNearest_bounds (num den : ℕ) :
    num / den ≤ divNearest num den ∧ divNearest num den ≤ num / den + 1 := by
  unfold divNearest
  simp only
  split <;> omega

/-- What is at least halfway above an odd number is rounded beyond it. -/
theorem lt_divNearest_iff {num den m : ℕ} (hden : 0 < den) (hodd : m % 2 = 1) :
    m < divNearest num den ↔ (2 * m + 1) * den ≤ 2 * num := by
  have hsplit : den * (num / den) + num % den = num := Nat.div_add_mod num den
  have hrest : num % den < den := Nat.mod_lt num hden
  have hhalf : (2 * m + 1) * den = 2 * (den * m) + den := by ring
  obtain ⟨hle, hge⟩ := divNearest_bounds num den
  rw [hhalf]
  rcases lt_trichotomy (num / den) m with hlt | heq | hgt
  · have hbelow : den * (num / den) + den ≤ den * m := Nat.mul_le_mul_left den hlt
    omega
  · -- Only here does the rest decide, and halfway goes up, since `m` is odd.
    rw [heq] at hsplit
    have hround : divNearest num den = if 2 * (num % den) < den then m else m + 1 := by
      unfold divNearest
      simp [heq, hodd]
    rw [hround]
    split <;> omega
  · have habove : den * m + den ≤ den * (num / den) := Nat.mul_le_mul_left den hgt
    omega

/-! ## Rounding to 53 binary digits -/

/-- A number of at least 53 binary digits has 53 of them up to its last significant one. -/
theorem shift_bounds {u : ℕ} (h : 2 ^ 53 ≤ u) :
    2 ^ 52 * 2 ^ shift u ≤ u ∧ u < 2 ^ 53 * 2 ^ shift u := by
  have hpos : u ≠ 0 := by omega
  have hlog : 53 ≤ u.log2 := (Nat.le_log2 hpos).mpr h
  have hshift : shift u = u.log2 - 52 := if_neg (by simpa [Nat.pow_eq] using h)
  have hlow : 2 ^ u.log2 ≤ u := Nat.log2_self_le hpos
  have hhigh : u < 2 ^ (u.log2 + 1) := Nat.lt_log2_self
  constructor
  · rw [← pow_add]
    rwa [hshift, show 52 + (u.log2 - 52) = u.log2 by omega]
  · rw [← pow_add]
    rwa [hshift, show 53 + (u.log2 - 52) = u.log2 + 1 by omega]

/-- A number rounded to 53 binary digits comes to a power of two just from halfway between that and
the number of as many digits before it on. -/
theorem two_pow_le_rounded_iff {u e : ℕ} (he : 0 < e) :
    2 ^ (53 + e) ≤ divNearest u (2 ^ shift u) * 2 ^ shift u ↔ 2 ^ (54 + e) ≤ 2 * u + 2 ^ e := by
  have hunit : 2 ≤ 2 ^ e := Nat.le_self_pow (by omega) 2
  rw [pow_add 2 53 e, pow_add 2 54 e]
  by_cases hbig : 2 ^ 53 ≤ u
  · obtain ⟨hlow, hhigh⟩ := shift_bounds hbig
    have hstep : 0 < 2 ^ shift u := Nat.two_pow_pos _
    have hquotient : 2 ^ 52 ≤ u / 2 ^ shift u := (Nat.le_div_iff_mul_le hstep).mpr hlow
    have hquotient' : u / 2 ^ shift u < 2 ^ 53 := (Nat.div_lt_iff_lt_mul hstep).mpr hhigh
    obtain ⟨hle, hge⟩ := divNearest_bounds u (2 ^ shift u)
    -- With fewer digits dropped the number stays below the power, with more it is beyond it.
    rcases lt_trichotomy (shift u) e with hlt | rfl | hgt
    · have hpow : 2 ^ (shift u + 1) ≤ 2 ^ e := Nat.pow_le_pow_right (by omega) hlt
      have hrounded : divNearest u (2 ^ shift u) * 2 ^ shift u ≤ 2 ^ 53 * 2 ^ shift u :=
        Nat.mul_le_mul_right _ (by omega)
      omega
    · rw [Nat.mul_le_mul_right_iff hstep]
      have hiff : 2 ^ 53 - 1 < divNearest u (2 ^ shift u) ↔ _ :=
        lt_divNearest_iff hstep (by decide)
      omega
    · have hpow : 2 ^ (e + 1) ≤ 2 ^ shift u := Nat.pow_le_pow_right (by omega) hgt
      have hrounded : 2 ^ 52 * 2 ^ shift u ≤ divNearest u (2 ^ shift u) * 2 ^ shift u :=
        Nat.mul_le_mul_right _ (by omega)
      omega
  · have hshift : shift u = 0 := if_pos (by simpa [Nat.pow_eq] using hbig)
    have hrounded : divNearest u (2 ^ 0) = u := by simp [divNearest, Nat.mod_one]
    rw [hshift, hrounded]
    omega

/-! ## Integers -/

/-- The units of an integer, rounded to 53 binary digits. -/
def roundedUnits (n : Int) : ℕ :=
  divNearest (n.natAbs * one) (2 ^ shift (n.natAbs * one)) * 2 ^ shift (n.natAbs * one)

/-- The number nearest to an integer has its rounded units if these are within the format. -/
theorem ofInt_eq (n : Int) : ofInt n =
    if limit ≤ roundedUnits n then .infinite (n < 0) else .finite (n < 0) (roundedUnits n) := by
  unfold ofInt ofRatio ofUnits roundedUnits
  simp only [Nat.div_one, one_mul, Nat.pow_eq]

/-- It is finite just if they are. -/
theorem ofInt?_isSome (n : Int) : (ofInt? n).isSome = true ↔ ¬limit ≤ roundedUnits n := by
  unfold ofInt?
  rw [ofInt_eq]
  by_cases h : limit ≤ roundedUnits n
  · rw [if_pos h]
    exact iff_of_false Bool.false_ne_true (not_not_intro h)
  · rw [if_neg h]
    exact iff_of_true rfl h

/-- The rounded units of an integer are beyond the format from halfway between the greatest finite
number and `2^1024` on. -/
theorem limit_le_roundedUnits_iff (n : Int) :
    limit ≤ roundedUnits n ↔ 2 ^ 1024 ≤ n.natAbs + 2 ^ 970 := by
  have hlimit : limit = 2 ^ (53 + 2045) := by decide +kernel
  have hpos : 0 < one := by decide +kernel
  -- Both powers are whole multiples of the units that one has.
  have hbound : 2 ^ (54 + 2045) = 2 * 2 ^ 1024 * one := by decide +kernel
  have hhalf : 2 ^ 2045 = 2 * 2 ^ 970 * one := by decide +kernel
  have hsum : 2 * (n.natAbs * one) + 2 * 2 ^ 970 * one = 2 * (n.natAbs + 2 ^ 970) * one := by
    rw [← Nat.mul_assoc, Nat.mul_add, Nat.add_mul]
  calc limit ≤ roundedUnits n
      ↔ 2 ^ (54 + 2045) ≤ 2 * (n.natAbs * one) + 2 ^ 2045 := by
        rw [hlimit]
        exact two_pow_le_rounded_iff (by omega)
    _ ↔ 2 * 2 ^ 1024 * one ≤ 2 * (n.natAbs + 2 ^ 970) * one := by rw [hbound, hhalf, hsum]
    _ ↔ 2 ^ 1024 ≤ n.natAbs + 2 ^ 970 := by
        rw [Nat.mul_le_mul_right_iff hpos, Nat.mul_le_mul_left_iff (by omega)]

/-- An integer has a floating-point number next to it just if it is below halfway from the greatest
finite one to `2^1024`. -/
theorem ofInt?_isSome_iff (n : Int) :
    (ofInt? n).isSome = true ↔ n.natAbs + 2 ^ 970 < 2 ^ 1024 := by
  rw [ofInt?_isSome, limit_le_roundedUnits_iff, Nat.not_le]

end PromptContract.Binary64
