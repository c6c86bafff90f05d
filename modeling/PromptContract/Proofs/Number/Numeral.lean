import PromptContract.Number.Numeral

/-!
# Written integers are read back

An integer is written as its decimal digits, with a minus in front where it is negative
(`toList_toString`). Read as a numeral it comes back, provided that its digits are not more than may
be read (`integer_toString`). What is written has no blanks around it (`trim_toString`).
-/

namespace PromptContract.Numeral

open Text

/-- The digits of a written number are digits. -/
theorem isDigit_of_mem_toDigits {n : Nat} {c : Char} (h : c ∈ Nat.toDigits 10 n) :
    isDigit c = true := by
  have hdigit := Nat.isDigit_of_mem_toDigits (by decide) (by decide) h
  simp only [Char.isDigit, Bool.and_eq_true, decide_eq_true_eq] at hdigit
  unfold isDigit asciiDigit?
  rw [if_pos (by simpa [Char.le_def] using hdigit)]
  rfl

/-- The digits of a number stand for the number. -/
theorem digitsValue_toDigits (n : Nat) : digitsValue (Nat.toDigits 10 n) = n :=
  Nat.ofDigitChars_ten_toDigits

/-- A number has at most `k` digits if it is below the `k`-th power of ten. -/
theorem length_toDigits_le_iff (n : Nat) {k : Nat} (hk : 0 < k) :
    (Nat.toDigits 10 n).length ≤ k ↔ n < Nat.pow 10 k :=
  Nat.length_toDigits_le_iff (by decide) hk

/-- A written integer is its digits, with a minus in front of those of a negative one. -/
theorem toList_toString (n : Int) : (toString n).toList =
    if n < 0 then '-' :: Nat.toDigits 10 n.natAbs else Nat.toDigits 10 n.natAbs := by
  cases n with
  | ofNat n =>
    rw [Int.ofNat_eq_natCast, if_neg (Int.not_lt.mpr (Int.natCast_nonneg n))]
    exact Nat.toList_repr
  | negSucc n =>
    rw [if_pos (Int.negSucc_lt_zero n)]
    exact String.toList_append.trans (congrArg _ Nat.toList_repr)

/-- Digits have no sign in front. -/
theorem takeSign_of_digits {ds : List Char} (h : ∀ c ∈ ds, isDigit c = true) :
    takeSign ds = (false, ds) := by
  unfold takeSign
  split
  · exact absurd (h '-' List.mem_cons_self) (by decide)
  · exact absurd (h '+' List.mem_cons_self) (by decide)
  · rfl

/-- A written integer is read as itself, or has more digits than may be read. -/
theorem integer_toString (n : Int) : integer (toString n).toList =
    if n.natAbs < Nat.pow 10 digitLimit then .value n else .tooLong := by
  -- The sign and the digits are read as they were written.
  have hsign : takeSign (toString n).toList = (decide (n < 0), Nat.toDigits 10 n.natAbs) := by
    rw [toList_toString]
    by_cases hneg : n < 0
    · rw [if_pos hneg, decide_eq_true hneg]
      rfl
    · rw [if_neg hneg, decide_eq_false hneg,
        takeSign_of_digits fun c hc => isDigit_of_mem_toDigits hc]
  have hne : (Nat.toDigits 10 n.natAbs).isEmpty = false :=
    List.isEmpty_eq_false_iff.mpr Nat.toDigits_ne_nil
  have hall : (Nat.toDigits 10 n.natAbs).all isDigit = true :=
    List.all_eq_true.mpr fun c hc => isDigit_of_mem_toDigits hc
  have hlen := length_toDigits_le_iff n.natAbs (show 0 < digitLimit by decide)
  have hvalue : signed (decide (n < 0)) n.natAbs = n := by
    unfold signed
    split
    · next hneg =>
      have hlt := of_decide_eq_true hneg
      omega
    · next hneg =>
      have hge : ¬n < 0 := by simpa using hneg
      omega
  unfold integer
  rw [hsign]
  simp only [hne, hall, Bool.not_true, Bool.or_false, Bool.false_eq_true, if_false,
    digitsValue_toDigits, hvalue]
  by_cases hle : (Nat.toDigits 10 n.natAbs).length ≤ digitLimit
  · rw [if_neg (Nat.not_lt.mpr hle), if_pos (hlen.mp hle)]
  · rw [if_pos (Nat.lt_of_not_le hle), if_neg (mt hlen.mpr hle)]

/-- A digit is no blank. -/
theorem isBlank_of_isDigit {c : Char} (h : isDigit c = true) : isBlank c = false := by
  have hrange : 48 ≤ c.toNat ∧ c.toNat ≤ 57 := by
    unfold isDigit asciiDigit? at h
    split at h
    · next hle =>
      simp only [Bool.and_eq_true, decide_eq_true_eq, Char.le_def, UInt32.le_iff_toNat_le] at hle
      exact hle
    · cases h
  obtain ⟨hlo, hhi⟩ := hrange
  simp only [isBlank, Bool.or_eq_false_iff, Bool.and_eq_false_iff, decide_eq_false_iff_not,
    beq_eq_false_iff_ne]
  omega

/-- A written integer has no blanks around it. -/
theorem trim_toString (n : Int) : trim (toString n).toList = (toString n).toList := by
  have hblank : ∀ c ∈ (toString n).toList, isBlank c = false := by
    have hdigits : ∀ c ∈ Nat.toDigits 10 n.natAbs, isBlank c = false :=
      fun c hc => isBlank_of_isDigit (isDigit_of_mem_toDigits hc)
    rw [toList_toString]
    split
    · intro c hc
      rcases List.mem_cons.mp hc with rfl | hc
      · decide
      · exact hdigits c hc
    · exact hdigits
  exact trimBy_eq_self _ _ (fun c hc => hblank c (List.mem_of_head? hc))
    (fun c hc => hblank c (List.mem_of_getLast? hc))

end PromptContract.Numeral
