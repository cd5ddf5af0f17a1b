import Mathlib.Algebra.Order.Field.Power
import Mathlib.Data.Int.Log
import Mathlib.Data.Rat.Floor
import Mathlib.Tactic.FieldSimp
import Mathlib.Tactic.Linarith
import Mathlib.Tactic.NormNum
import Mathlib.Tactic.Positivity
import Mathlib.Tactic.Ring
import CheckKeeper.Number.Binary

namespace CheckKeeper.Number

/-! Rounding of fractions to binary numbers.

The code of a fraction depends only on its value, grows with it, and is the code itself where the
value is that of a code.
-/

variable {n d n' d' : Nat} {e e' : Int} {code bound : Nat}

/-- A fraction is rounded to an integer at most if it is at most half above it, and less than that
above an odd one. -/
theorem roundRatio_le_iff (positive : 0 < d) :
    roundRatio n d ≤ bound ↔
      2 * n < (2 * bound + 1) * d ∨ (2 * n = (2 * bound + 1) * d ∧ bound % 2 = 0) := by
  have parts : n = d * (n / d) + n % d := (Nat.div_add_mod n d).symm
  have small : n % d < d := Nat.mod_lt n positive
  unfold roundRatio
  dsimp only
  generalize n / d = quotient at parts
  generalize n % d = remainder at parts small
  subst parts
  rcases Nat.lt_trichotomy bound quotient with below | rfl | above
  · -- Already the integer part is larger.
    have larger : (2 * bound + 2) * d ≤ 2 * (d * quotient) := by nlinarith
    constructor
    · intro le
      split at le <;> [skip; split at le] <;> omega
    · rintro (lt | ⟨eq, _⟩) <;> nlinarith
  · have expand : (2 * bound + 1) * d = 2 * (d * bound) + d := by ring
    rw [expand]
    constructor
    · intro le
      split at le <;> [skip; split at le] <;> omega
    · intro close
      split <;> [skip; split] <;> omega
  · have larger : (2 * quotient + 3) * d ≤ (2 * bound + 1) * d := by nlinarith
    have expand : (2 * quotient + 3) * d = 2 * (d * quotient) + 3 * d := by ring
    constructor
    · intro _
      left
      omega
    · intro _
      split <;> [skip; split] <;> omega

theorem roundRatio_mono (positive : 0 < d) (positive' : 0 < d') (le : n * d' ≤ n' * d) :
    roundRatio n d ≤ roundRatio n' d' := by
  rw [roundRatio_le_iff positive]
  have within := (roundRatio_le_iff positive').mp (Nat.le_refl (roundRatio n' d'))
  generalize roundRatio n' d' = bound at within
  have scaled : 2 * n * d' ≤ 2 * n' * d := by nlinarith
  rcases within with lt | ⟨eq, even⟩
  · left
    have : 2 * n * d' < (2 * bound + 1) * d * d' := by nlinarith
    exact Nat.lt_of_mul_lt_mul_right this
  · rw [eq] at scaled
    have : 2 * n ≤ (2 * bound + 1) * d := by
      refine Nat.le_of_mul_le_mul_right ?_ positive'
      nlinarith
    rcases Nat.lt_or_eq_of_le this with lt | same
    · exact Or.inl lt
    · exact Or.inr ⟨same, even⟩

theorem roundRatio_mul (positive : 0 < d) (m : Nat) : roundRatio (m * d) d = m := by
  simp [roundRatio, Nat.mul_div_cancel _ positive, positive]

theorem two_zpow (e : Int) : (2 : ℚ) ^ e = 2 ^ e.toNat / 2 ^ (-e).toNat := by
  rcases Int.le_total 0 e with nonneg | nonpos
  · have none : (-e).toNat = 0 := by omega
    rw [none, pow_zero, div_one, ← zpow_natCast, Int.toNat_of_nonneg nonneg]
  · have none : e.toNat = 0 := by omega
    rw [none, pow_zero, one_div, ← zpow_natCast, ← zpow_neg, Int.toNat_of_nonneg (by omega), neg_neg]

theorem scaleDown_snd_pos (positive : 0 < d) (n : Nat) (e : Int) : 0 < (scaleDown n d e).2 :=
  Nat.mul_pos positive (Nat.two_pow_pos _)

/-- A fraction scaled down is its value divided by the power of two. -/
theorem scaleDown_div (positive : 0 < d) (n : Nat) (e : Int) :
    ((scaleDown n d e).1 : ℚ) / (scaleDown n d e).2 = (n : ℚ) / d / 2 ^ e := by
  have given : (d : ℚ) ≠ 0 := Nat.cast_ne_zero.mpr positive.ne'
  rw [two_zpow]
  simp only [scaleDown, Nat.pow_eq, Nat.cast_mul, Nat.cast_pow, Nat.cast_ofNat]
  field_simp

theorem scaleDown_le_iff (positive : 0 < d) (n : Nat) (e : Int) (bound : Nat) :
    (scaleDown n d e).1 ≤ bound * (scaleDown n d e).2 ↔ (n : ℚ) / d ≤ bound * 2 ^ e := by
  have low : (0 : ℚ) < (scaleDown n d e).2 := Nat.cast_pos.mpr (scaleDown_snd_pos positive n e)
  rw [← div_le_iff₀ (zpow_pos two_pos e), ← scaleDown_div positive, div_le_iff₀ low]
  exact_mod_cast Iff.rfl

theorem le_scaleDown_iff (positive : 0 < d) (n : Nat) (e : Int) (bound : Nat) :
    bound * (scaleDown n d e).2 ≤ (scaleDown n d e).1 ↔ bound * 2 ^ e ≤ (n : ℚ) / d := by
  have low : (0 : ℚ) < (scaleDown n d e).2 := Nat.cast_pos.mpr (scaleDown_snd_pos positive n e)
  rw [← le_div_iff₀ (zpow_pos two_pos e), ← scaleDown_div positive, le_div_iff₀ low]
  exact_mod_cast Iff.rfl

/-- The lengths of numerator and denominator tell the logarithm of a fraction but for one. -/
theorem div_window (given : 0 < n) (positive : 0 < d) :
    (2 : ℚ) ^ ((n.log2 : Int) - d.log2 - 1) ≤ (n : ℚ) / d ∧
      (n : ℚ) / d < 2 ^ ((n.log2 : Int) - d.log2 + 1) := by
  have denominator : (0 : ℚ) < d := Nat.cast_pos.mpr positive
  have high_n : (n : ℚ) < 2 ^ (n.log2 + 1) := by exact_mod_cast Nat.lt_log2_self
  have low_n : (2 : ℚ) ^ n.log2 ≤ n := by exact_mod_cast Nat.log2_self_le given.ne'
  have high_d : (d : ℚ) < 2 ^ (d.log2 + 1) := by exact_mod_cast Nat.lt_log2_self
  have low_d : (2 : ℚ) ^ d.log2 ≤ d := by exact_mod_cast Nat.log2_self_le positive.ne'
  have bit_n : (0 : ℚ) < 2 ^ n.log2 := by positivity
  have bit_d : (0 : ℚ) < 2 ^ d.log2 := by positivity
  constructor
  · rw [sub_sub, zpow_sub₀ two_ne_zero, zpow_add_one₀ two_ne_zero, zpow_natCast, zpow_natCast,
      ← pow_succ, div_le_div_iff₀ (by positivity) denominator]
    nlinarith
  · rw [sub_add_eq_add_sub, zpow_sub₀ two_ne_zero, zpow_add_one₀ two_ne_zero, zpow_natCast,
      zpow_natCast, ← pow_succ, div_lt_div_iff₀ denominator bit_d]
    nlinarith

theorem log_eq {value : ℚ} {k : Int} (low : (2 : ℚ) ^ k ≤ value) (high : value < 2 ^ (k + 1)) :
    Int.log 2 value = k := by
  have positive : 0 < value := (zpow_pos two_pos k).trans_le low
  refine le_antisymm ?_ ?_
  · exact Int.lt_add_one_iff.mp ((Int.lt_zpow_iff_log_lt Nat.one_lt_two positive).mp
      (by exact_mod_cast high))
  · exact (Int.zpow_le_iff_le_log Nat.one_lt_two positive).mp (by exact_mod_cast low)

/-- The exponent leaves 53 bits before the point, if it is not the smallest one. -/
theorem exponentFor_eq (given : 0 < n) (positive : 0 < d) :
    exponentFor n d = max smallestExponent (Int.log 2 ((n : ℚ) / d) - 52) := by
  obtain ⟨low, high⟩ := div_window given positive
  unfold exponentFor
  dsimp only
  congr 1
  generalize guessed : (n.log2 : Int) - d.log2 - 52 = guess
  have length : (n.log2 : Int) - d.log2 = guess + 52 := by omega
  rw [length] at low high
  have test : (scaleDown n d guess).1 < fieldBit * (scaleDown n d guess).2 ↔
      (n : ℚ) / d < 2 ^ (guess + 52) := by
    have bits : ((fieldBit : Nat) : ℚ) * 2 ^ guess = 2 ^ (guess + 52) := by
      rw [zpow_add₀ two_ne_zero, mul_comm]
      norm_num [fieldBit]
    rw [← not_le, le_scaleDown_iff positive, not_le, bits]
  split
  · rename_i small
    rw [log_eq low (by rw [sub_add_cancel]; exact test.mp small)]
    omega
  · rename_i large
    rw [test, not_lt] at large
    rw [log_eq large high]
    omega

/-- What a code stands for. -/
def valueOfCode (code : Nat) : ℚ :=
  (magnitudeOfCode code).1 * 2 ^ (magnitudeOfCode code).2

theorem codeOfRatio_pos (given : 0 < n) : codeOfRatio n d =
    min infinityCode ((exponentFor n d - smallestExponent).toNat * fieldBit +
      roundRatio (scaleDown n d (exponentFor n d)).1 (scaleDown n d (exponentFor n d)).2) := by
  rw [codeOfRatio, if_neg given.ne']

theorem fieldBit_eq : ((fieldBit : Nat) : ℚ) = 2 ^ (52 : Int) := by
  norm_num [fieldBit]

theorem rounded_le (given : 0 < n) (positive : 0 < d) :
    roundRatio (scaleDown n d (exponentFor n d)).1 (scaleDown n d (exponentFor n d)).2 ≤
      2 * fieldBit := by
  have value : (0 : ℚ) < (n : ℚ) / d := div_pos (Nat.cast_pos.mpr given) (Nat.cast_pos.mpr positive)
  have within : (scaleDown n d (exponentFor n d)).1 ≤
      2 * fieldBit * (scaleDown n d (exponentFor n d)).2 := by
    rw [scaleDown_le_iff positive, Nat.cast_mul, fieldBit_eq]
    have below := Int.lt_zpow_succ_log_self Nat.one_lt_two ((n : ℚ) / d)
    have step : ((2 : Nat) : ℚ) * 2 ^ (52 : Int) * 2 ^ exponentFor n d = 2 ^ (exponentFor n d + 53) := by
      rw [mul_comm, zpow_add₀ two_ne_zero]
      norm_num
    rw [step]
    refine below.le.trans ?_
    refine zpow_le_zpow_right₀ one_le_two ?_
    rw [exponentFor_eq given positive]
    omega
  have low := scaleDown_snd_pos positive n (exponentFor n d)
  calc roundRatio _ _ ≤ roundRatio (2 * fieldBit * 1) 1 := roundRatio_mono low Nat.one_pos (by simpa using within)
    _ = 2 * fieldBit := roundRatio_mul Nat.one_pos _

theorem le_rounded (given : 0 < n) (positive : 0 < d) (normal : smallestExponent < exponentFor n d) :
    fieldBit ≤
      roundRatio (scaleDown n d (exponentFor n d)).1 (scaleDown n d (exponentFor n d)).2 := by
  have value : (0 : ℚ) < (n : ℚ) / d := div_pos (Nat.cast_pos.mpr given) (Nat.cast_pos.mpr positive)
  have within : fieldBit * (scaleDown n d (exponentFor n d)).2 ≤ (scaleDown n d (exponentFor n d)).1 := by
    rw [le_scaleDown_iff positive, fieldBit_eq, ← zpow_add₀ two_ne_zero]
    have above := Int.zpow_log_le_self Nat.one_lt_two value
    refine le_trans ?_ (by exact_mod_cast above)
    refine zpow_le_zpow_right₀ one_le_two ?_
    rw [exponentFor_eq given positive] at normal ⊢
    omega
  have low := scaleDown_snd_pos positive n (exponentFor n d)
  calc fieldBit = roundRatio (fieldBit * 1) 1 := (roundRatio_mul Nat.one_pos _).symm
    _ ≤ roundRatio _ _ := roundRatio_mono Nat.one_pos low (by simpa using within)

/-- A larger fraction has no smaller code. -/
theorem codeOfRatio_mono (positive : 0 < d) (positive' : 0 < d') (le : n * d' ≤ n' * d) :
    codeOfRatio n d ≤ codeOfRatio n' d' := by
  rcases Nat.eq_zero_or_pos n with rfl | given
  · simp [codeOfRatio]
  have given' : 0 < n' := by
    rcases Nat.eq_zero_or_pos n' with rfl | given'
    · have : 0 < n * d' := Nat.mul_pos given positive'
      omega
    · exact given'
  have value : (n : ℚ) / d ≤ (n' : ℚ) / d' := by
    rw [div_le_div_iff₀ (Nat.cast_pos.mpr positive) (Nat.cast_pos.mpr positive')]
    exact_mod_cast le
  have exponents : exponentFor n d ≤ exponentFor n' d' := by
    rw [exponentFor_eq given positive, exponentFor_eq given' positive']
    have logs : Int.log 2 ((n : ℚ) / d) ≤ Int.log 2 ((n' : ℚ) / d') :=
      Int.log_mono_right (div_pos (Nat.cast_pos.mpr given) (Nat.cast_pos.mpr positive)) value
    omega
  have least : smallestExponent ≤ exponentFor n d := by
    rw [exponentFor_eq given positive]
    exact Int.le_max_left _ _
  rw [codeOfRatio_pos given, codeOfRatio_pos given']
  refine min_le_min_left infinityCode ?_
  rcases Int.lt_or_eq_of_le exponents with lower | same
  · have high := rounded_le given positive
    have low := le_rounded given' positive' (by omega)
    have fields : ((exponentFor n d - smallestExponent).toNat + 1) * fieldBit ≤
        (exponentFor n' d' - smallestExponent).toNat * fieldBit :=
      Nat.mul_le_mul_right _ (by omega)
    rw [Nat.add_mul, Nat.one_mul] at fields
    omega
  · rw [same]
    refine Nat.add_le_add_left ?_ _
    refine roundRatio_mono (scaleDown_snd_pos positive n _) (scaleDown_snd_pos positive' n' _) ?_
    simp only [scaleDown]
    calc n * Nat.pow 2 (-exponentFor n' d').toNat * (d' * Nat.pow 2 (exponentFor n' d').toNat)
        = n * d' * (Nat.pow 2 (-exponentFor n' d').toNat * Nat.pow 2 (exponentFor n' d').toNat) := by ring
      _ ≤ n' * d * (Nat.pow 2 (-exponentFor n' d').toNat * Nat.pow 2 (exponentFor n' d').toNat) :=
          Nat.mul_le_mul_right _ le
      _ = _ := by ring

/-- The code of a fraction depends only on its value. -/
theorem codeOfRatio_congr (positive : 0 < d) (positive' : 0 < d') (same : n * d' = n' * d) :
    codeOfRatio n d = codeOfRatio n' d' :=
  Nat.le_antisymm (codeOfRatio_mono positive positive' same.le)
    (codeOfRatio_mono positive' positive same.ge)

/-- Mantissa and exponent of a code, and the code as it is made of them. -/
theorem magnitudeOfCode_spec (code : Nat) :
    smallestExponent ≤ (magnitudeOfCode code).2 ∧ (magnitudeOfCode code).1 < 2 * fieldBit ∧
      (smallestExponent < (magnitudeOfCode code).2 → fieldBit ≤ (magnitudeOfCode code).1) ∧
      ((magnitudeOfCode code).2 - smallestExponent).toNat * fieldBit + (magnitudeOfCode code).1 = code := by
  have parts : fieldBit * (code / fieldBit) + code % fieldBit = code := Nat.div_add_mod code fieldBit
  have small : code % fieldBit < fieldBit := Nat.mod_lt code (by decide)
  unfold magnitudeOfCode
  dsimp only
  split
  · rename_i subnormal
    rw [subnormal] at parts
    simp only [Int.sub_self, Int.toNat_zero, lt_irrefl, false_implies, le_refl, true_and]
    omega
  · rename_i normal
    obtain ⟨field, same⟩ := Nat.exists_eq_succ_of_ne_zero normal
    rw [same] at parts ⊢
    have exponent : (smallestExponent + ((field + 1 - 1 : Nat) : Int) - smallestExponent).toNat = field := by
      omega
    rw [Nat.succ_eq_add_one, exponent]
    rw [Nat.succ_eq_add_one, Nat.mul_add, Nat.mul_one, Nat.mul_comm] at parts
    omega

/-- A fraction with the value of a code has that code. -/
theorem codeOfRatio_of_value (positive : 0 < d) (finite : code < infinityCode)
    (value : (n : ℚ) / d = valueOfCode code) : codeOfRatio n d = code := by
  obtain ⟨least, below, normal, made⟩ := magnitudeOfCode_spec code
  rw [valueOfCode] at value
  generalize (magnitudeOfCode code).1 = mantissa at *
  generalize (magnitudeOfCode code).2 = exponent at *
  have denominator : (d : ℚ) ≠ 0 := Nat.cast_ne_zero.mpr positive.ne'
  have unit : (0 : ℚ) < 2 ^ exponent := zpow_pos two_pos exponent
  rcases Nat.eq_zero_or_pos mantissa with rfl | given
  · -- Nothing but nought has no mantissa.
    have nought : n = 0 := by
      rw [Nat.cast_zero, zero_mul, div_eq_zero_iff, or_iff_left denominator] at value
      exact_mod_cast value
    have lowest : exponent = smallestExponent := by
      by_contra higher
      have := normal (by omega)
      exact absurd this (by decide)
    rw [nought, codeOfRatio, if_pos rfl, ← made, lowest]
    simp
  have number : (0 : ℚ) < n := by
    have : (0 : ℚ) < (n : ℚ) / d := by
      rw [value]
      exact mul_pos (Nat.cast_pos.mpr given) unit
    exact (div_pos_iff_of_pos_right (Nat.cast_pos.mpr positive)).mp this
  have high : (n : ℚ) / d < 2 ^ (exponent + 53) := by
    rw [value, zpow_add₀ two_ne_zero, mul_comm]
    refine mul_lt_mul_of_pos_left ?_ unit
    have bits : ((2 * fieldBit : Nat) : ℚ) = 2 ^ (53 : Int) := by norm_num [fieldBit]
    rw [← bits]
    exact_mod_cast below
  have same : exponentFor n d = exponent := by
    rw [exponentFor_eq (by exact_mod_cast number) positive]
    have low_log : Int.log 2 ((n : ℚ) / d) < exponent + 53 :=
      (Int.lt_zpow_iff_log_lt Nat.one_lt_two (div_pos number (Nat.cast_pos.mpr positive))).mp
        (by exact_mod_cast high)
    rcases Int.lt_or_eq_of_le least with higher | lowest
    · have low : (2 : ℚ) ^ (exponent + 52) ≤ (n : ℚ) / d := by
        rw [value, zpow_add₀ two_ne_zero, mul_comm, ← fieldBit_eq]
        refine mul_le_mul_of_nonneg_right ?_ unit.le
        exact_mod_cast normal higher
      rw [log_eq low (by rw [add_assoc]; exact high)]
      omega
    · omega
  have exact_ratio : (scaleDown n d exponent).1 = mantissa * (scaleDown n d exponent).2 :=
    Nat.le_antisymm ((scaleDown_le_iff positive n exponent mantissa).mpr value.le)
      ((le_scaleDown_iff positive n exponent mantissa).mpr value.ge)
  rw [codeOfRatio_pos (by exact_mod_cast number), same, exact_ratio,
    roundRatio_mul (scaleDown_snd_pos positive n exponent), made]
  exact Nat.min_eq_right finite.le

theorem codeOfRatio_le (n d : Nat) : codeOfRatio n d ≤ infinityCode := by
  unfold codeOfRatio
  split
  · exact Nat.zero_le _
  · exact Nat.min_le_left _ _

/-- Beyond 400 digits everything is the infinity. -/
theorem codeOfRatio_of_large (positive : 0 < d) (large : 10 ^ 400 * d ≤ n) :
    codeOfRatio n d = infinityCode := by
  have top : codeOfRatio (10 ^ 400) 1 = infinityCode := by decide +kernel
  refine Nat.le_antisymm (codeOfRatio_le n d) ?_
  rw [← top]
  exact codeOfRatio_mono Nat.one_pos positive (by rwa [Nat.mul_one])

/-- What begins 400 places behind the point is nought. -/
theorem codeOfRatio_of_small (positive : 0 < d) (small : n * 10 ^ 400 ≤ d) : codeOfRatio n d = 0 := by
  have bottom : codeOfRatio 1 (10 ^ 400) = 0 := by decide +kernel
  refine Nat.le_zero.mp ?_
  rw [← bottom]
  exact codeOfRatio_mono positive (Nat.pow_pos (by decide)) (by rwa [Nat.one_mul])

end CheckKeeper.Number
