import Mathlib.Tactic.IntervalCases
import CheckKeeper.Number.Literal
import CheckKeeper.Proofs.Rounding

namespace CheckKeeper.Number

/-! Numbers written in decimal digits.

The shortest decimal of a number has the code of the number, and its text reads as a decimal of the
same value, whichever of the ways to write it is taken.
-/

variable {code : Nat} {d other : Decimal} {digits whole places : List Char} {c : Char}

theorem decimalLength_le_iff {n k : Nat} (positive : 0 < k) : decimalLength n ≤ k ↔ n < 10 ^ k :=
  Nat.length_toDigits_le_iff (by decide) positive

namespace Decimal

def value (d : Decimal) : ℚ :=
  d.digits * 10 ^ d.exponent

theorem ten_zpow (e : Int) : (10 : ℚ) ^ e = 10 ^ e.toNat / 10 ^ (-e).toNat := by
  rcases Int.le_total 0 e with nonneg | nonpos
  · have none : (-e).toNat = 0 := by omega
    rw [none, pow_zero, div_one, ← zpow_natCast, Int.toNat_of_nonneg nonneg]
  · have none : e.toNat = 0 := by omega
    rw [none, pow_zero, one_div, ← zpow_natCast, ← zpow_neg, Int.toNat_of_nonneg (by omega), neg_neg]

theorem toRatio_snd_pos (d : Decimal) : 0 < d.toRatio.2 :=
  Nat.pow_pos (by decide)

theorem toRatio_value (d : Decimal) : (d.toRatio.1 : ℚ) / d.toRatio.2 = d.value := by
  rw [value, ten_zpow]
  simp only [toRatio, Nat.pow_eq, Nat.cast_mul, Nat.cast_pow, Nat.cast_ofNat]
  ring

/-- Decimals of one value read alike. -/
theorem code_congr (same : d.value = other.value) : d.code = other.code := by
  rw [← toRatio_value, ← toRatio_value, div_eq_div_iff (Nat.cast_ne_zero.mpr d.toRatio_snd_pos.ne')
    (Nat.cast_ne_zero.mpr other.toRatio_snd_pos.ne')] at same
  exact codeOfRatio_congr d.toRatio_snd_pos other.toRatio_snd_pos (by exact_mod_cast same)

theorem code_of_value (finite : code < infinityCode) (same : d.value = valueOfCode code) :
    d.code = code :=
  codeOfRatio_of_value d.toRatio_snd_pos finite (d.toRatio_value.trans same)

/-- The shortcuts for exponents out of range change nothing. -/
theorem readCode_eq_code (d : Decimal) : d.readCode = d.code := by
  have power (k : Nat) : 0 < 10 ^ k := Nat.pow_pos (by decide)
  unfold readCode
  dsimp only
  split
  · rename_i nought
    rw [code, codeOfRatio, toRatio, nought, Nat.zero_mul, if_pos rfl]
  · rename_i given
    have length : 0 < decimalLength d.digits := Nat.length_toDigits_pos
    split
    · rename_i large
      refine (codeOfRatio_of_large d.toRatio_snd_pos ?_).symm
      have first : 10 ^ (decimalLength d.digits - 1) ≤ d.digits := by
        rcases Nat.lt_or_ge 1 (decimalLength d.digits) with several | single
        · rw [← Nat.not_lt, ← decimalLength_le_iff (by omega)]
          omega
        · rw [Nat.sub_eq_zero_of_le single]
          omega
      simp only [toRatio, Nat.pow_eq]
      calc 10 ^ 400 * 10 ^ (-d.exponent).toNat = 10 ^ (400 + (-d.exponent).toNat) := (pow_add _ _ _).symm
        _ ≤ 10 ^ (decimalLength d.digits - 1 + d.exponent.toNat) :=
            Nat.pow_le_pow_right (by decide) (by omega)
        _ = 10 ^ (decimalLength d.digits - 1) * 10 ^ d.exponent.toNat := pow_add _ _ _
        _ ≤ d.digits * 10 ^ d.exponent.toNat := Nat.mul_le_mul_right _ first
    · split
      · rename_i small
        refine (codeOfRatio_of_small d.toRatio_snd_pos ?_).symm
        have last : d.digits ≤ 10 ^ decimalLength d.digits :=
          ((decimalLength_le_iff length).mp (Nat.le_refl _)).le
        simp only [toRatio, Nat.pow_eq]
        calc d.digits * 10 ^ d.exponent.toNat * 10 ^ 400
            ≤ 10 ^ decimalLength d.digits * 10 ^ d.exponent.toNat * 10 ^ 400 :=
              Nat.mul_le_mul_right _ (Nat.mul_le_mul_right _ last)
          _ = 10 ^ (decimalLength d.digits + d.exponent.toNat + 400) := by rw [pow_add, pow_add]
          _ ≤ 10 ^ (-d.exponent).toNat := Nat.pow_le_pow_right (by decide) (by omega)
      · rfl

end Decimal

theorem code_of_firstOnGrids? {numerator denominator count : Nat} {exponent : Int}
    (found : firstOnGrids? code numerator denominator count exponent = some d) : d.code = code := by
  induction count generalizing exponent with
  | zero => cases found
  | succ count ih =>
      unfold firstOnGrids? at found
      split at found
      · rename_i first here
        cases found
        unfold onGrid? at here
        dsimp only at here
        split at here
        · rename_i same
          cases here
          exact same
        · split at here
          · rename_i same
            cases here
            exact same
          · cases here
      · exact ih found

theorem exactDecimal_value (mantissa : Nat) (exponent : Int) :
    (exactDecimal mantissa exponent).value = mantissa * 2 ^ exponent := by
  unfold exactDecimal
  split
  · rename_i nonneg
    simp only [Decimal.value, Nat.pow_eq, Nat.cast_mul, Nat.cast_pow, Nat.cast_ofNat, zpow_zero, mul_one]
    rw [two_zpow, show (-exponent).toNat = 0 by omega, pow_zero, div_one]
  · rename_i negative
    simp only [Decimal.value, Nat.pow_eq, Nat.cast_mul, Nat.cast_pow, Nat.cast_ofNat]
    rw [two_zpow, Decimal.ten_zpow, show exponent.toNat = 0 by omega, pow_zero, pow_zero,
      show (10 : ℚ) = 2 * 5 by norm_num, mul_pow]
    field_simp

/-- The shortest decimal of a finite number reads as the number. -/
theorem code_shortest (finite : code < infinityCode) : (shortest code).code = code := by
  unfold shortest
  dsimp only
  split
  · rename_i nought
    have same : (⟨0, 0⟩ : Decimal).value = valueOfCode code := by
      rw [valueOfCode, nought]
      simp [Decimal.value]
    exact Decimal.code_of_value finite same
  · cases found : firstOnGrids? code _ _ 17 _ with
    | some decimal => exact code_of_firstOnGrids? found
    | none => exact Decimal.code_of_value finite (exactDecimal_value _ _)

theorem natOfDigits_eq (digits : List Char) : natOfDigits digits = Nat.ofDigitChars 10 digits 0 := by
  rw [Nat.ofDigitChars_eq_foldl, natOfDigits]
  congr 1
  funext total c
  rw [Nat.mul_comm]
  rfl

theorem natOfDigits_append (digits later : List Char) : natOfDigits (digits ++ later) =
    natOfDigits digits * 10 ^ later.length + natOfDigits later := by
  rw [natOfDigits_eq, Nat.ofDigitChars_append, Nat.ofDigitChars_eq_ofDigitChars_zero,
    ← natOfDigits_eq, ← natOfDigits_eq, Nat.mul_comm]

theorem natOfDigits_noughts (count : Nat) : natOfDigits (noughts count) = 0 := by
  rw [natOfDigits_eq, noughts, Nat.ofDigitChars_replicate_zero, Nat.mul_zero]

theorem natOfDigits_toDigits (n : Nat) : natOfDigits (Nat.toDigits 10 n) = n := by
  rw [natOfDigits_eq, Nat.ofDigitChars_ten_toDigits]

theorem isDigit_of_isDigit (digit : c.isDigit = true) : isDigit c = true :=
  digit

/-- The characters of a number without sign, point and exponent. -/
def Digits (cs : List Char) : Prop :=
  ∀ c ∈ cs, isDigit c = true

theorem natOfDigits_lt (all : Digits digits) : natOfDigits digits < 10 ^ digits.length := by
  induction digits with
  | nil => decide
  | cons c digits ih =>
      obtain ⟨digit, rest⟩ := List.forall_mem_cons.mp all
      have small : natOfDigits [c] ≤ 9 := by
        rw [isDigit, Bool.and_eq_true, decide_eq_true_eq, decide_eq_true_eq] at digit
        have bound : c.toNat ≤ 57 := digit.2
        change 0 * 10 + (c.toNat - 48) ≤ 9
        omega
      have rest := ih rest
      calc natOfDigits (c :: digits) = natOfDigits [c] * 10 ^ digits.length + natOfDigits digits :=
            natOfDigits_append [c] digits
        _ < 9 * 10 ^ digits.length + 10 ^ digits.length :=
            Nat.add_lt_add_of_le_of_lt (Nat.mul_le_mul_right _ small) rest
        _ = 10 ^ (c :: digits).length := by
            rw [List.length_cons, pow_succ]
            ring

theorem digits_toDigits (n : Nat) : Digits (Nat.toDigits 10 n) := fun _ member =>
  isDigit_of_isDigit (Nat.isDigit_of_mem_toDigits (by decide) (by decide) member)

theorem digits_noughts (count : Nat) : Digits (noughts count) := by
  intro c member
  rw [List.eq_of_mem_replicate member]
  decide

theorem Digits.append (first : Digits digits) (later : Digits places) : Digits (digits ++ places) :=
  List.forall_mem_append.mpr ⟨first, later⟩

theorem head_toDigits {n : Nat} (given : 0 < n) : (Nat.toDigits 10 n).head? ≠ some '0' := by
  induction n using Nat.strongRecOn with
  | _ n ih =>
      rcases Nat.lt_or_ge n 10 with small | large
      · rw [Nat.toDigits_of_lt_base small]
        interval_cases n <;> decide
      · rw [Nat.toDigits_of_base_le (by decide) large, List.head?_append_of_ne_nil _ Nat.toDigits_ne_nil]
        exact ih (n / 10) (by omega) (by omega)

/-- The places with the point in front of them, if there are any. -/
def fractionText (places : List Char) : List Char :=
  if places.isEmpty then [] else '.' :: places

def powerText (power : Option Int) : List Char :=
  power.elim [] fun exponent => 'e' :: exponentText exponent

/-- A number without its sign, as it is written out. -/
structure Numeral where
  whole : List Char
  places : List Char
  power : Option Int
  wholeDigits : Digits whole
  placesDigits : Digits places
  wholeGiven : whole ≠ []
  /-- Only a nought that stands alone comes first. -/
  plain : whole = ['0'] ∨ whole.head? ≠ some '0'

namespace Numeral

def text (n : Numeral) : List Char :=
  n.whole ++ fractionText n.places ++ powerText n.power

def decimal (n : Numeral) : Decimal :=
  ⟨natOfDigits (n.whole ++ n.places), n.power.getD 0 - n.places.length⟩

end Numeral

def powerDigits (exponent : Int) : List Char :=
  let digits := Nat.toDigits 10 exponent.natAbs
  if digits.length < 2 then '0' :: digits else digits

theorem exponentText_eq (exponent : Int) :
    exponentText exponent = (if exponent < 0 then '-' else '+') :: powerDigits exponent :=
  rfl

theorem powerDigits_ne_nil (exponent : Int) : powerDigits exponent ≠ [] := by
  unfold powerDigits
  dsimp only
  split
  · exact List.cons_ne_nil _ _
  · exact Nat.toDigits_ne_nil

theorem digits_powerDigits (exponent : Int) : Digits (powerDigits exponent) := by
  unfold powerDigits
  dsimp only
  split
  · exact List.forall_mem_cons.mpr ⟨by decide, digits_toDigits _⟩
  · exact digits_toDigits _

theorem natOfDigits_powerDigits (exponent : Int) :
    natOfDigits (powerDigits exponent) = exponent.natAbs := by
  unfold powerDigits
  dsimp only
  split
  · exact natOfDigits_toDigits _
  · exact natOfDigits_toDigits _

theorem cutSign_exponentText (exponent : Int) (rest : List Char) :
    cutSign (exponentText exponent ++ rest) =
      (decide (exponent < 0), powerDigits exponent ++ rest) := by
  rw [exponentText_eq]
  split
  · rename_i negative
    rw [decide_eq_true negative]
    rfl
  · rename_i nonneg
    rw [decide_eq_false nonneg]
    rfl

theorem all_of_digits (all : Digits digits) : digits.all isDigit = true :=
  List.all_eq_true.mpr all

theorem readExponent?_powerText (power : Option Int) :
    readExponent? (powerText power) = some (power.getD 0) := by
  cases power with
  | none => rfl
  | some exponent =>
      have sign := cutSign_exponentText exponent []
      rw [List.append_nil, List.append_nil] at sign
      have given : (powerDigits exponent).isEmpty = false :=
        List.isEmpty_eq_false_iff.mpr (powerDigits_ne_nil exponent)
      have value : (if decide (exponent < 0) = true then -(exponent.natAbs : Int)
          else exponent.natAbs) = exponent := by
        simp only [decide_eq_true_eq]
        omega
      simp only [powerText, Option.elim_some, readExponent?, sign, given,
        all_of_digits (digits_powerDigits exponent), natOfDigits_powerDigits, value]
      rfl

/-- What follows digits starts with none. -/
def Stops (rest : List Char) : Prop :=
  ∀ c, rest.head? = some c → isDigit c = false

theorem takeWhile_digits (all : Digits digits) {rest : List Char} (stops : Stops rest) :
    (digits ++ rest).takeWhile isDigit = digits := by
  rw [List.takeWhile_append_of_pos all]
  cases rest with
  | nil => exact List.append_nil _
  | cons c rest => rw [List.takeWhile_cons_of_neg (by simp [stops c rfl]), List.append_nil]

theorem dropWhile_digits (all : Digits digits) {rest : List Char} (stops : Stops rest) :
    (digits ++ rest).dropWhile isDigit = rest := by
  rw [List.dropWhile_append_of_pos all]
  cases rest with
  | nil => rfl
  | cons c rest => exact List.dropWhile_cons_of_neg (by simp [stops c rfl])

theorem stops_powerText (power : Option Int) : Stops (powerText power) := by
  intro c first
  cases power with
  | none => cases first
  | some exponent =>
      cases first
      decide

theorem stops_fractionText (places : List Char) {rest : List Char} (stops : Stops rest) :
    Stops (fractionText places ++ rest) := by
  cases places with
  | nil => exact stops
  | cons place places =>
      intro c first
      cases first
      decide

namespace Numeral

variable {n : Numeral}

theorem readDecimal?_text (n : Numeral) : readDecimal? n.text = some n.decimal := by
  have stops := stops_fractionText n.places (stops_powerText n.power)
  have whole : n.whole.isEmpty = false := List.isEmpty_eq_false_iff.mpr n.wholeGiven
  unfold readDecimal? text
  rw [List.append_assoc, takeWhile_digits n.wholeDigits stops, dropWhile_digits n.wholeDigits stops]
  obtain ⟨_, places, power, _, placesDigits, _, _⟩ := n
  dsimp only at whole placesDigits ⊢
  rcases places with - | ⟨place, places⟩
  · rcases power with - | exponent
    · simp [whole, fractionText, powerText, readExponent?, decimal]
    · have read := readExponent?_powerText (some exponent)
      simp only [powerText, Option.elim_some] at read
      simp [whole, fractionText, powerText, read, decimal]
  · have first := takeWhile_digits placesDigits (stops_powerText power)
    have rest := dropWhile_digits placesDigits (stops_powerText power)
    rw [List.cons_append] at first rest
    simp [whole, fractionText, readExponent?_powerText, decimal, first, rest]

end Numeral

/-- Digits that start as a number does that is written out. -/
def Leads (digits : List Char) (point : Int) : Prop :=
  digits.head? ≠ some '0' ∨ (digits = ['0'] ∧ point = 1)

/-- The text is a numeral whose value the digits have with the point, and which is no integer. -/
def Numbers (text digits : List Char) (point : Int) : Prop :=
  ∃ n : Numeral, n.text = text ∧
    n.decimal.value = natOfDigits digits * 10 ^ (point - digits.length) ∧
    (n.places ≠ [] ∨ n.power.isSome)

section Layouts

variable {first : Char} {rest : List Char} {point : Int}

theorem numbers_power (all : Digits (first :: rest)) :
    Numbers (first :: fractionText rest ++ powerText (some (point - 1))) (first :: rest) point := by
  obtain ⟨firstDigit, restDigits⟩ := List.forall_mem_cons.mp all
  refine ⟨⟨[first], rest, some (point - 1), List.forall_mem_singleton.mpr firstDigit, restDigits,
    List.cons_ne_nil _ _, ?_⟩, rfl, ?_, .inr rfl⟩
  · by_cases nought : first = '0'
    · exact .inl (by rw [nought])
    · exact .inr (fun same => nought (Option.some.inj same))
  · simp only [Numeral.decimal, Decimal.value, Option.getD_some, List.singleton_append,
      List.length_cons, Nat.cast_add, Nat.cast_one]
    ring_nf

theorem numbers_places (all : Digits (first :: rest)) (small : point ≤ 0) :
    Numbers ('0' :: '.' :: noughts (-point).toNat ++ first :: rest) (first :: rest) point := by
  refine ⟨⟨['0'], noughts (-point).toNat ++ first :: rest, none, digits_noughts 1,
    (digits_noughts _).append all, by decide, .inl rfl⟩, ?_, ?_, .inl (by simp)⟩
  · simp [Numeral.text, fractionText, powerText]
  · have length : ((noughts (-point).toNat ++ first :: rest).length : Int) =
        -point + (first :: rest).length := by
      rw [List.length_append, noughts, List.length_replicate]
      omega
    have digits : natOfDigits (['0'] ++ (noughts (-point).toNat ++ first :: rest)) =
        natOfDigits (first :: rest) := by
      rw [natOfDigits_append, natOfDigits_append, natOfDigits_noughts]
      simp [natOfDigits]
    simp only [Numeral.decimal, Decimal.value, Option.getD_none, length, digits]
    ring_nf

theorem numbers_whole (all : Digits (first :: rest)) (leads : Leads (first :: rest) point)
    (large : 0 < point) (long : (first :: rest).length ≤ point.toNat) :
    Numbers (first :: rest ++ noughts (point.toNat - (first :: rest).length) ++ ['.', '0'])
      (first :: rest) point := by
  refine ⟨⟨first :: rest ++ noughts (point.toNat - (first :: rest).length), ['0'], none,
    all.append (digits_noughts _), digits_noughts 1, by simp, ?_⟩, ?_, ?_,
    .inl (List.cons_ne_nil _ _)⟩
  · rcases leads with head | ⟨alone, single⟩
    · exact .inr head
    · obtain ⟨rfl, rfl⟩ := List.cons.inj alone
      exact .inl (by rw [single]; rfl)
  · simp [Numeral.text, fractionText, powerText]
  · have digits :
        natOfDigits (first :: rest ++ noughts (point.toNat - (first :: rest).length) ++ ['0']) =
          natOfDigits (first :: rest) * 10 ^ (point.toNat - (first :: rest).length) * 10 := by
      rw [natOfDigits_append, natOfDigits_append, natOfDigits_noughts]
      simp [natOfDigits, noughts]
    have power : point - (first :: rest).length =
        (point.toNat - (first :: rest).length : Nat) := by
      omega
    simp only [Numeral.decimal, Decimal.value, Option.getD_none, digits, power, zpow_natCast]
    simp [zpow_neg]

theorem numbers_inside (all : Digits (first :: rest)) (leads : Leads (first :: rest) point)
    (large : 0 < point) (short : point.toNat < (first :: rest).length) :
    Numbers ((first :: rest).take point.toNat ++ '.' :: (first :: rest).drop point.toNat)
      (first :: rest) point := by
  have split : (first :: rest).take point.toNat ++ (first :: rest).drop point.toNat = first :: rest :=
    List.take_append_drop _ _
  obtain ⟨k, count⟩ : ∃ k, point.toNat = k + 1 := ⟨point.toNat - 1, by omega⟩
  refine ⟨⟨(first :: rest).take point.toNat, (first :: rest).drop point.toNat, none,
    fun c member => all c (List.mem_of_mem_take member),
    fun c member => all c (List.mem_of_mem_drop member), ?_, ?_⟩, ?_, ?_, .inl ?_⟩
  · rw [count]
    exact List.cons_ne_nil _ _
  · rcases leads with head | ⟨alone, single⟩
    · rw [count]
      exact .inr head
    · rw [single, alone] at short
      exact absurd short (by decide)
  · have places : ((first :: rest).drop point.toNat).isEmpty = false := by
      simp only [List.isEmpty_eq_false_iff, ne_eq, List.drop_eq_nil_iff]
      omega
    simp only [Numeral.text, fractionText, places, powerText, Option.elim_none, List.append_nil]
    rfl
  · simp only [Numeral.decimal, Decimal.value, Option.getD_none, split, List.length_drop]
    congr 2
    omega
  · simp only [ne_eq, List.drop_eq_nil_iff]
    omega

end Layouts

/-- Digits around a point are a numeral, in each of the layouts. -/
theorem numbers_placePoint (all : Digits digits) (given : digits ≠ []) {point : Int}
    (leads : Leads digits point) : Numbers (placePoint digits point) digits point := by
  obtain ⟨first, rest, rfl⟩ := List.exists_cons_of_ne_nil given
  unfold placePoint
  split
  · rcases rest with - | ⟨second, rest⟩
    · exact numbers_power all
    · exact numbers_power all
  split
  · rename_i small
    exact numbers_places all small
  split
  · rename_i large long
    exact numbers_whole all leads (by omega) long
  · rename_i large short
    exact numbers_inside all leads (by omega) (by omega)

/-- Digits are those that are kept without the noughts at the end, and these noughts. -/
theorem eq_append_noughts (all : List Char) :
    ∃ count, all = (all.reverse.dropWhile (· == '0')).reverse ++ noughts count := by
  refine ⟨(all.reverse.takeWhile (· == '0')).length, ?_⟩
  have same : all.reverse.takeWhile (· == '0') = noughts (all.reverse.takeWhile (· == '0')).length :=
    List.eq_replicate_iff.mpr ⟨rfl, fun c member => eq_of_beq (List.all_eq_true.mp List.all_takeWhile c member)⟩
  calc all = (all.reverse.takeWhile (· == '0') ++ all.reverse.dropWhile (· == '0')).reverse := by
        rw [List.takeWhile_append_dropWhile, List.reverse_reverse]
    _ = (all.reverse.dropWhile (· == '0')).reverse ++ noughts _ := by
        rw [List.reverse_append, same, noughts, List.reverse_replicate, List.length_replicate]
        rfl

theorem layout_spec (d : Decimal) :
    Digits d.layout.1 ∧ d.layout.1 ≠ [] ∧ Leads d.layout.1 d.layout.2 ∧
      natOfDigits d.layout.1 * (10 : ℚ) ^ (d.layout.2 - d.layout.1.length) = d.value := by
  rcases Nat.eq_zero_or_pos d.digits with nought | positive
  · have written : d.layout = (['0'], 1) := by
      rw [Decimal.layout, nought]
      rfl
    rw [written]
    refine ⟨digits_noughts 1, List.cons_ne_nil _ _, .inr ⟨rfl, rfl⟩, ?_⟩
    simp [Decimal.value, nought, natOfDigits]
  · obtain ⟨count, whole⟩ := eq_append_noughts (Nat.toDigits 10 d.digits)
    have all := digits_toDigits d.digits
    have head := head_toDigits positive
    have number := natOfDigits_toDigits d.digits
    unfold Decimal.layout
    dsimp only
    generalize ((Nat.toDigits 10 d.digits).reverse.dropWhile (· == '0')).reverse = kept at whole ⊢
    rw [whole] at all head number
    rw [natOfDigits_append, natOfDigits_noughts] at number
    rcases kept with - | ⟨first, rest⟩
    · simp only [natOfDigits, List.foldl_nil] at number
      omega
    · refine ⟨fun c member => all c (List.mem_append_left _ member), List.cons_ne_nil _ _, .inl head, ?_⟩
      have power : d.exponent + (Nat.toDigits 10 d.digits).length - (first :: rest).length =
          count + d.exponent := by
        rw [whole, noughts, List.length_append, List.length_replicate]
        omega
      simp only [List.isEmpty_cons, Bool.false_eq_true, if_false, power]
      rw [Decimal.value, ← number, noughts, List.length_replicate, zpow_add₀ (by norm_num), zpow_natCast]
      push_cast
      ring

/-- The text of a decimal reads as a decimal of its value. -/
theorem exists_numeral_of_decimal (d : Decimal) :
    ∃ n : Numeral, n.text = placePoint d.layout.1 d.layout.2 ∧ n.decimal.value = d.value ∧
      (n.places ≠ [] ∨ n.power.isSome) := by
  obtain ⟨all, given, leads, value⟩ := layout_spec d
  obtain ⟨n, text, same, kind⟩ := numbers_placePoint all given leads
  exact ⟨n, text, same.trans value, kind⟩

end CheckKeeper.Number
