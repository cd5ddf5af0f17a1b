import CheckKeeper.Compile.Freshness
import CheckKeeper.Preview.Clock
import CheckKeeper.Proofs.Rounding
import CheckKeeper.Proofs.Statement

namespace CheckKeeper

open Calendar Number

/-! Spans of minutes.

More minutes make no shorter span, also where a fraction of a minute is rounded twice.  An agreed
age is an exact fraction above nought, and so is whatever is at least as much.
-/

variable {a b : Value} {n m : Int} {d e : Nat} {span further : Int}
  {definition : Definition}

namespace Number

theorem valueOfCode_eq_div (code : Nat) : valueOfCode code =
    ((magnitudeOfCode code).1 * Nat.pow 2 (magnitudeOfCode code).2.toNat : Nat) /
      (Nat.pow 2 (-(magnitudeOfCode code).2).toNat : Nat) := by
  rw [valueOfCode, two_zpow, Nat.pow_eq, Nat.pow_eq]
  push_cast
  ring

/-- Larger codes stand for larger numbers. -/
theorem valueOfCode_mono {code code' : Nat} (le : code ≤ code') : valueOfCode code ≤ valueOfCode code' := by
  obtain ⟨least, below, normal, made⟩ := magnitudeOfCode_spec code
  obtain ⟨least', below', normal', made'⟩ := magnitudeOfCode_spec code'
  unfold valueOfCode
  generalize (magnitudeOfCode code).1 = mantissa at *
  generalize (magnitudeOfCode code).2 = exponent at *
  generalize (magnitudeOfCode code').1 = mantissa' at *
  generalize (magnitudeOfCode code').2 = exponent' at *
  subst made made'
  have unit : (0 : ℚ) < 2 ^ exponent := zpow_pos two_pos exponent
  rcases Int.lt_trichotomy exponent exponent' with lower | rfl | higher
  · -- The next exponent counts in units twice as large, and begins at half as many.
    have half := normal' (by omega)
    have full : (mantissa : ℚ) ≤ mantissa' * 2 := by
      have : mantissa ≤ mantissa' * 2 := by omega
      exact_mod_cast this
    calc (mantissa : ℚ) * 2 ^ exponent ≤ mantissa' * 2 * 2 ^ exponent :=
          mul_le_mul_of_nonneg_right full unit.le
      _ = mantissa' * 2 ^ (exponent + 1) := by rw [zpow_add_one₀ two_ne_zero]; ring
      _ ≤ mantissa' * 2 ^ exponent' :=
          mul_le_mul_of_nonneg_left (zpow_le_zpow_right₀ one_le_two lower) (Nat.cast_nonneg _)
  · have smaller : mantissa ≤ mantissa' := by omega
    exact mul_le_mul_of_nonneg_right (Nat.cast_le.mpr smaller) unit.le
  · have half := normal (by omega)
    have fields : ((exponent' - smallestExponent).toNat + 1) * fieldBit ≤
        (exponent - smallestExponent).toNat * fieldBit := Nat.mul_le_mul_right _ (by omega)
    rw [Nat.add_mul, Nat.one_mul] at fields
    omega

theorem roundCode_mono {code code' : Nat} (le : code ≤ code') : roundCode code ≤ roundCode code' := by
  have values := valueOfCode_mono le
  have scale (exponent : Nat) : (0 : ℚ) < (Nat.pow 2 exponent : Nat) :=
    Nat.cast_pos.mpr (Nat.two_pow_pos exponent)
  rw [valueOfCode_eq_div, valueOfCode_eq_div, div_le_div_iff₀ (scale _) (scale _)] at values
  exact roundRatio_mono (Nat.two_pow_pos _) (Nat.two_pow_pos _) (by exact_mod_cast values)

end Number

namespace Preview

theorem microsOfRatio_mono {n n' d d' : Nat} (positive : 0 < d) (positive' : 0 < d')
    (le : n * d' ≤ n' * d) : microsOfRatio n d ≤ microsOfRatio n' d' := by
  refine roundCode_mono (codeOfRatio_mono positive positive' ?_)
  calc n * minute.toNat * d' = n * d' * minute.toNat := Nat.mul_right_comm _ _ _
    _ ≤ n' * d * minute.toNat := Nat.mul_le_mul_right _ le
    _ = n' * minute.toNat * d := Nat.mul_right_comm _ _ _

theorem microsOfRatio_zero (d : Nat) : microsOfRatio 0 d = 0 := by
  rw [microsOfRatio, Nat.zero_mul, codeOfRatio, if_pos rfl]
  decide +kernel

/-- Less than a minute is rounded to a minute at most. -/
theorem microsOfRatio_le {n : Nat} (positive : 0 < d) (less : n ≤ d) :
    (microsOfRatio n d : Int) ≤ minute := by
  have full : (microsOfRatio 1 1 : Int) = minute := by decide +kernel
  rw [← full]
  exact_mod_cast microsOfRatio_mono positive Nat.one_pos (by omega)

theorem spanOfRatio_natCast (n d : Nat) :
    spanOfRatio n d = (n / d : Nat) * minute + microsOfRatio (n % d) d := by
  have nonnegative : ¬ ((n : Int) < 0) := by omega
  simp only [spanOfRatio, if_neg nonnegative, Int.natAbs_natCast]
  rw [Int.natCast_div, ← Int.tdiv_eq_ediv_of_nonneg (Int.natCast_nonneg n)]

theorem spanOfRatio_one (n : Int) : spanOfRatio n 1 = n * minute := by
  simp [spanOfRatio, Nat.mod_one, microsOfRatio_zero]

theorem spanOfRatio_mono (positive : 0 < d) (positive' : 0 < e) (nonnegative : 0 ≤ n)
    (le : n * e ≤ m * d) : spanOfRatio n d ≤ spanOfRatio m e := by
  have nonnegative' : 0 ≤ m := by
    have : 0 ≤ m * d := (mul_nonneg nonnegative (Int.natCast_nonneg e)).trans le
    exact nonneg_of_mul_nonneg_left this (by exact_mod_cast positive)
  lift n to Nat using nonnegative
  lift m to Nat using nonnegative'
  have le : n * e ≤ m * d := by exact_mod_cast le
  rw [spanOfRatio_natCast, spanOfRatio_natCast]
  have whole : n / d ≤ m / e := by
    rw [Nat.le_div_iff_mul_le positive']
    refine Nat.le_of_mul_le_mul_right ?_ positive
    calc n / d * e * d = n / d * d * e := Nat.mul_right_comm _ _ _
      _ ≤ n * e := Nat.mul_le_mul_right e (Nat.div_mul_le_self n d)
      _ ≤ m * d := le
  rcases Nat.lt_or_eq_of_le whole with less | same
  · -- The rest of the smaller number adds no more than the minute that it lacks.
    have added := microsOfRatio_le positive (Nat.mod_lt n positive).le
    have lacked : ((n / d : Nat) + 1 : Int) * minute ≤ (m / e : Nat) * minute :=
      mul_le_mul_of_nonneg_right (by exact_mod_cast less) (by decide)
    have rest : (0 : Int) ≤ microsOfRatio (m % e) e := Int.natCast_nonneg _
    rw [add_one_mul] at lacked
    linarith
  · have rests : n % d * e ≤ m % e * d := by
      have parts_n : d * (n / d) + n % d = n := Nat.div_add_mod n d
      have parts_m : e * (m / e) + m % e = m := Nat.div_add_mod m e
      rw [← parts_n, ← parts_m, ← same] at le
      nlinarith
    have added := microsOfRatio_mono positive positive' rests
    rw [same]
    exact add_le_add_right (Int.ofNat_le.mpr added) _

theorem intOfFloat_of_none {number : Float} (infinite : toDyadic? number = none) :
    ∃ failure, Value.intOfFloat number = .error failure := by
  rw [Value.intOfFloat, infinite]
  dsimp only
  split
  · exact ⟨_, rfl⟩
  · exact ⟨_, rfl⟩

/-- A fraction is a number of minutes, and has an integer part. -/
theorem spanOf_of_ratio (known : a.exactValue? = some (.ratio n d)) :
    0 < d ∧ spanOf a = .ok (spanOfRatio n d) ∧ ∃ whole, a.toInt = .ok whole := by
  cases a with
  | bool flag =>
      cases known
      exact ⟨Nat.one_pos, congrArg Except.ok (spanOfRatio_one _).symm, _, rfl⟩
  | int number =>
      cases known
      exact ⟨Nat.one_pos, congrArg Except.ok (spanOfRatio_one _).symm, _, rfl⟩
  | float number =>
      simp only [Value.exactValue?, Exact.ofFloat] at known
      cases finite : toDyadic? number with
      | none =>
          rw [finite] at known
          dsimp only at known
          split at known <;> cases known
      | some dyadic =>
          rw [finite] at known
          cases known
          refine ⟨Nat.two_pow_pos _, ?_, dyadic.truncate, ?_⟩
          · rw [spanOf, spanOfFloat, finite]
          · rw [Value.toInt, Value.intOfFloat, finite]
  | _ => cases known

/-- A number without an integer part is no number of minutes. -/
theorem ratio_of_exact {x : Exact} (known : a.exactValue? = some x)
    (read : (∃ span, spanOf a = .ok span) ∨ ∃ whole, a.toInt = .ok whole) : ∃ n d, x = .ratio n d := by
  cases a with
  | bool flag => exact ⟨_, _, (Option.some.inj known).symm⟩
  | int number => exact ⟨_, _, (Option.some.inj known).symm⟩
  | float number =>
      cases finite : toDyadic? number with
      | none =>
          obtain ⟨failure, refused⟩ := intOfFloat_of_none finite
          simp only [spanOf, spanOfFloat, finite, Value.toInt, refused] at read
          rcases read with ⟨_, same⟩ | ⟨_, same⟩ <;> cases same
      | some dyadic =>
          simp only [Value.exactValue?, Exact.ofFloat, finite] at known
          exact ⟨_, _, (Option.some.inj known).symm⟩
  | _ => cases known

theorem daysBeforeMonth_le (year month : Nat) : daysBeforeMonth year month ≤ (month - 1) * 31 := by
  unfold daysBeforeMonth
  induction month - 1 with
  | zero => exact Nat.le_refl 0
  | succ past ih =>
      have last := monthLength_le year (past + 1)
      rw [List.range_succ, List.foldl_append, List.foldl_cons, List.foldl_nil]
      omega

theorem ordinal_le (date : Date) : date.ordinal ≤ 4000000 := by
  have year := date.yearInRange
  have month := date.monthInRange
  have inMonth := date.dayInRange.2
  have length := monthLength_le date.year date.month
  have months := daysBeforeMonth_le date.year date.month
  unfold Date.ordinal daysBeforeYear
  dsimp only
  omega

theorem wallClock_within (point : Moment) :
    ∃ clock : Int, point.wallClock = clock ∧ 0 ≤ clock ∧ clock < 345600000000000000 := by
  have days := ordinal_le point.date
  have hours := point.time.hoursInRange
  have minutes := point.time.minutesInRange
  have seconds := point.time.secondsInRange
  have micros := point.time.microsInRange
  refine ⟨(point.date.ordinal - 1 : Nat) * 86400000000 + (point.time.hours * 3600000000 +
    point.time.minutes * 60000000 + point.time.seconds * 1000000 + point.time.micros), rfl, ?_, ?_⟩
  · omega
  · omega

/-- A span that leads from one moment of the calendar to another is not too long. -/
theorem spanOfMinutes_of_inCalendar {point : Moment} (spanned : spanOf a = .ok span)
    (within : inCalendar (point.wallClock - span) = true) : spanOfMinutes a = .ok span := by
  obtain ⟨clock, same, begun, ended⟩ := wallClock_within point
  have full : (daysInCalendar : Int) * Calendar.day = 3652059 * 86400000000 := rfl
  rw [same, inCalendar, full, Bool.and_eq_true, decide_eq_true_iff, decide_eq_true_iff] at within
  have inside : 0 ≤ clock - span ∧ clock - span < 3652059 * 86400000000 := within
  have short : ¬ (span / 86400000000 < -999999999 ∨ 999999999 < span / 86400000000) := by
    omega
  rw [spanOfMinutes, spanned]
  refine if_neg ?_
  rwa [Bool.or_eq_true, decide_eq_true_iff, decide_eq_true_iff]

end Preview

namespace Compile

open Preview

theorem isAtMost_exact {x y : Exact} (known : a.exactValue? = some x) (known' : b.exactValue? = some y) :
    a.isAtMost b = .ok (x.compare? y == some .lt || x.compare? y == some .eq) := by
  cases a <;> cases known <;> cases b <;> cases known' <;> rfl

/-- Only a number is compared with a number. -/
theorem isAtMost_of_exact {x : Exact} {flag : Bool} (known : a.exactValue? = some x)
    (compared : a.isAtMost b = .ok flag) : ∃ y, b.exactValue? = some y ∧
      flag = (x.compare? y == some .lt || x.compare? y == some .eq) := by
  have numeric : ∃ y, b.exactValue? = some y := by
    cases a <;> cases known <;> cases b <;> first | exact ⟨_, rfl⟩ | cases compared
  obtain ⟨y, known'⟩ := numeric
  rw [isAtMost_exact known known'] at compared
  exact ⟨y, known', (Except.ok.inj compared).symm⟩

theorem atMost_ratio (n m : Int) (d e : Nat) :
    ((Exact.ratio n d).compare? (.ratio m e) == some .lt ||
      (Exact.ratio n d).compare? (.ratio m e) == some .eq) = decide (n * e ≤ m * d) := by
  rw [Exact.compare?]
  rcases lt_trichotomy (n * e) (m * d) with less | same | more
  · simp [compare_lt_iff_lt.mpr less, less.le]
  · simp [same]
  · simp [compare_gt_iff_gt.mpr more, more]

/-- An age can be agreed on if it is an exact fraction above nought. -/
theorem agreedMinutes_eq_ok_iff : (∃ minutes, agreedMinutes definition = .ok minutes) ↔
    ∃ n d, definition.slaMinutes.exactValue? = some (.ratio n d) ∧ 0 < n := by
  have above (n : Int) (d : Nat) : ((Exact.ratio n d).compare? (.ofInt 0) == some .lt ||
      (Exact.ratio n d).compare? (.ofInt 0) == some .eq) = false ↔ 0 < n := by
    rw [Exact.ofInt, atMost_ratio]
    simp
  constructor
  · rintro ⟨minutes, agreed⟩
    unfold agreedMinutes at agreed
    split at agreed
    · cases agreed
    obtain ⟨low, compared, rest⟩ := bind_eq_ok agreed
    cases low with
    | true => cases rest
    | false =>
        have compared := declared_eq_ok compared
        have numeric : ∃ x, definition.slaMinutes.exactValue? = some x := by
          cases minutes_value : definition.slaMinutes <;> rw [minutes_value] at compared <;>
            first | exact ⟨_, rfl⟩ | cases compared
        obtain ⟨x, known⟩ := numeric
        obtain ⟨n, d, rfl⟩ := ratio_of_exact known (.inr ⟨minutes, declared_eq_ok rest⟩)
        obtain ⟨y, zero, order⟩ := isAtMost_of_exact known compared
        cases zero
        exact ⟨n, d, known, (above n d).mp order.symm⟩
  · rintro ⟨n, d, known, positive⟩
    obtain ⟨_, _, whole, read⟩ := spanOf_of_ratio known
    have given : definition.slaMinutes.isNull = false := by
      cases minutes_value : definition.slaMinutes with
      | null =>
          rw [minutes_value] at known
          cases known
      | _ => rfl
    have compared : definition.slaMinutes.isAtMost (.int 0) = .ok false := by
      rw [isAtMost_exact known rfl, (above n d).mpr positive]
    refine ⟨whole, ?_⟩
    rw [agreedMinutes, given, compared, read]
    rfl

/-- What is at least an agreed age, and has an integer part, can be agreed on as well, and its span is
no shorter. -/
theorem agreedMinutes_of_isAtMost {minutes : Int} {longer : Value}
    (agreed : agreedMinutes definition = .ok minutes)
    (least : definition.slaMinutes.isAtMost longer = .ok true) (spanned : spanOf longer = .ok further) :
    (∃ more, agreedMinutes { definition with slaMinutes := longer } = .ok more) ∧
      ∃ span, spanOf definition.slaMinutes = .ok span ∧ span ≤ further := by
  obtain ⟨n, d, known, positive⟩ := agreedMinutes_eq_ok_iff.mp ⟨minutes, agreed⟩
  obtain ⟨y, known', order⟩ := isAtMost_of_exact known least
  obtain ⟨m, e, rfl⟩ := ratio_of_exact known' (.inl ⟨further, spanned⟩)
  rw [atMost_ratio] at order
  have le : n * e ≤ m * d := of_decide_eq_true order.symm
  obtain ⟨positive_d, span, _⟩ := spanOf_of_ratio known
  obtain ⟨positive_e, span', _⟩ := spanOf_of_ratio known'
  have positive' : 0 < m := by
    have : 0 < m * d := (Int.mul_pos positive (by exact_mod_cast positive_e)).trans_le le
    exact pos_of_mul_pos_left this (by positivity)
  refine ⟨agreedMinutes_eq_ok_iff.mpr ⟨m, e, known', positive'⟩, _, span, ?_⟩
  rw [Except.ok.inj (spanned.symm.trans span')]
  exact spanOfRatio_mono positive_d positive_e positive.le le

end Compile

end CheckKeeper
