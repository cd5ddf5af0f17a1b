import Mathlib
import CheckKeeper.Number.Literal

namespace CheckKeeper.Number

/-! Numbers and their bits.

A number is made of sign, exponent and mantissa, and what is put together from these parts is the
number again.  Of the patterns that stand for no number there is one.
-/

open Float.Model (Format)
open Float.Model.UnpackedFloat (Sign packComponents unpackSign unpackExponent unpackMantissa pack unpack)

variable {bits : BitVec Format.binary64.numBits} {x : Float}

theorem components_unpack (bits : BitVec Format.binary64.numBits) :
    packComponents Format.binary64 (Sign.ofBitVec (unpackSign bits)) (unpackExponent bits)
      (unpackMantissa bits) = bits := by
  have sign : ∀ sign : BitVec 1, (Sign.ofBitVec sign).toBitVec = sign := by decide
  unfold packComponents
  rw [sign]
  refine BitVec.eq_of_getLsbD_eq fun i inside => ?_
  have inside : i < 64 := inside
  simp only [unpackMantissa, unpackExponent, unpackSign, BitVec.getLsbD_append, BitVec.getLsbD_cast,
    BitVec.getLsbD_extractLsb]
  rcases Nat.lt_or_ge i 52 with low | high
  · simp [low]
  · rw [if_neg (Nat.not_lt.mpr high)]
    rcases Nat.lt_or_ge i 63 with middle | top
    · simp [show i - 52 < 11 by omega, show 52 + (i - 52) = i by omega]
    · obtain rfl : i = 63 := by omega
      rfl

/-- A mantissa without the bit in front is shorter than one with it. -/
theorem log2_subnormal {mantissa : BitVec 52} (given : mantissa ≠ 0#52) :
    mantissa.toNat.log2 + 1 ≠ Format.binary64.mantissaBits := by
  have positive : mantissa.toNat ≠ 0 := fun nought => given (BitVec.eq_of_toNat_eq nought)
  have below : mantissa.toNat.log2 < 52 := (Nat.log2_lt positive).mpr mantissa.isLt
  change _ ≠ 53
  omega

theorem toNat_normal (mantissa : BitVec 52) :
    (1#1 ++ mantissa).toNat = 2 ^ 52 + mantissa.toNat := by
  rw [BitVec.toNat_append]
  exact (Nat.shiftLeft_add_eq_or_of_lt mantissa.isLt 1).symm

theorem log2_normal (mantissa : BitVec 52) :
    (1#1 ++ mantissa).toNat.log2 + 1 = Format.binary64.mantissaBits := by
  have bound := mantissa.isLt
  have bits : (2 ^ 52 + mantissa.toNat).log2 = 52 := by
    rw [Nat.log2_eq_iff (by omega)]
    omega
  rw [toNat_normal, bits]
  rfl

/-- The bit in front is cut off again. -/
theorem ofNat_normal (mantissa : BitVec 52) :
    BitVec.ofNat 52 (1#1 ++ mantissa).toNat = mantissa := by
  refine BitVec.eq_of_toNat_eq ?_
  rw [toNat_normal, BitVec.toNat_ofNat, Nat.add_mod_left, Nat.mod_eq_of_lt mantissa.isLt]

theorem exponent_below {exponent : BitVec 11} (finite : exponent ≠ -1#11) :
    exponent.toNat + 1 < 2 ^ 11 := by
  have bound := exponent.isLt
  have other : exponent.toNat ≠ 2 ^ 11 - 1 := fun same => finite (BitVec.eq_of_toNat_eq same)
  omega

theorem pack_unpack (valid : Format.binary64.Valid bits) :
    pack Format.binary64 (unpack Format.binary64 bits) = bits := by
  have whole := components_unpack bits
  unfold unpack
  dsimp only
  split
  · rename_i top
    split
    · rename_i nought
      rw [top, nought] at whole
      exact whole
    · rename_i given
      exact (valid.eq_packedNaN top given).symm
  rename_i finite
  split
  · rename_i lowest
    split
    · rename_i nought
      rw [lowest, nought] at whole
      exact whole
    · rename_i given
      have biased : (((unpackExponent bits).toNat : Int) -
          (Format.binary64.exponentBias + (52 : Nat)) + 1 + Format.binary64.exponentBias +
            (52 : Nat)).toNat = 1 := by
        rw [lowest]
        rfl
      unfold pack
      dsimp only
      rw [biased, if_neg (by decide), if_neg (log2_subnormal given), BitVec.ofNat_toNat,
        BitVec.setWidth_eq, ← lowest, whole]
  · have biased : (((unpackExponent bits).toNat : Int) -
        (Format.binary64.exponentBias + (52 : Nat)) + Format.binary64.exponentBias +
          (52 : Nat)).toNat = (unpackExponent bits).toNat := by
      omega
    have below := exponent_below finite
    unfold pack
    dsimp only
    rw [biased, if_neg (Nat.not_le.mpr below), if_pos (log2_normal _), ofNat_normal,
      BitVec.ofNat_toNat, BitVec.setWidth_eq, whole]

theorem ofBits_toBits (x : Float) : Float.ofBits x.toBits = x := by
  obtain ⟨⟨bits, valid⟩⟩ := x
  have same := pack_unpack valid
  unfold Float.ofBits Float.toBits Float.Model.ofBits Float.Model.pack
  simp only [same]

theorem ofCode_magnitudeCode (x : Float) : ofCode (isNegative x) (magnitudeCode x) = x := by
  have bound := x.toBits.toNat_lt
  have whole : magnitudeCode x + (if isNegative x then signBit else 0) = x.toBits.toNat := by
    unfold isNegative magnitudeCode signBit
    split
    · rename_i negative
      rw [decide_eq_true_eq] at negative
      omega
    · rename_i positive
      rw [decide_eq_true_eq] at positive
      omega
  rw [ofCode, whole, UInt64.ofNat_toNat, ofBits_toBits]

theorem toNat_unpackExponent (bits : BitVec Format.binary64.numBits) :
    (unpackExponent bits).toNat = bits.toNat / 2 ^ 52 % 2 ^ 11 := by
  rw [unpackExponent, BitVec.toNat_cast, BitVec.extractLsb_toNat, Nat.shiftRight_eq_div_pow]
  rfl

theorem toNat_unpackMantissa (bits : BitVec Format.binary64.numBits) :
    (unpackMantissa bits).toNat = bits.toNat % 2 ^ 52 := by
  rw [unpackMantissa, BitVec.toNat_cast, BitVec.extractLsb_toNat, Nat.shiftRight_zero]
  rfl

theorem eq_notANumber (nan : isNaN x = true) : x = notANumber := by
  rw [isNaN, decide_eq_true_eq] at nan
  obtain ⟨⟨bits, valid⟩⟩ := x
  have bound := bits.toBitVec.isLt
  change 0x7ff * 2 ^ 52 < bits.toBitVec.toNat % 2 ^ 63 at nan
  have exponent : @unpackExponent Format.binary64 bits.toBitVec = -1#11 := by
    refine BitVec.eq_of_toNat_eq ?_
    rw [toNat_unpackExponent]
    change _ = 2047
    omega
  have mantissa : @unpackMantissa Format.binary64 bits.toBitVec ≠ 0#52 := by
    intro nought
    have none := toNat_unpackMantissa bits.toBitVec
    rw [nought] at none
    change 0 = _ at none
    omega
  have canonical := valid.eq_packedNaN exponent mantissa
  rw [← ofBits_toBits ⟨⟨bits, valid⟩⟩, notANumber]
  congr 1
  exact UInt64.toBitVec_inj.mp canonical

end CheckKeeper.Number
