import TextAnnotation.Decimal.Single
import Mathlib.Algebra.Order.Field.Rat
import Mathlib.Tactic.FieldSimp

/-!
# Integers that have a number of 32 bits of their own

A number of 32 bits has 24 binary digits. So natural numbers of up to 24 binary digits are not rounded.

* `Means`: the natural number that a number of 32 bits is.
* `unpack_pack_normal`: the digits and the exponent of a number are kept.
* `round_exact`: what has no more than 24 digits is only moved to the left.
* `singleOfInt_means`: small natural numbers are converted exactly. `ofBits_toBits_singleOfInt` reads them back.
-/

namespace TextAnnotation.Decimal

open Float.Model (Format UnpackedFloat totalExponent)
open Float.Model.UnpackedFloat

/-- A number of 32 bits is exactly a natural number. -/
def Means (x : Float32) (n : Nat) : Prop :=
  match x.toModel.unpack with
  | .zero .positive => n = 0
  | .finite .positive mantissa exponent _ => (mantissa : ℚ) * (2 : ℚ) ^ exponent = n
  | _ => False

/-! ## Digits and exponents -/

theorem log2_of_normal {m : Nat} (hlow : 2 ^ 23 ≤ m) (hhigh : m < 2 ^ 24) : m.log2 = 23 :=
  (Nat.log2_eq_iff (by omega)).mpr ⟨hlow, hhigh⟩

theorem log2_le {n : Nat} (hpos : n ≠ 0) (h : n < 2 ^ 24) : n.log2 ≤ 23 :=
  Nat.le_of_lt_succ ((Nat.log2_lt hpos).mpr h)

/-- The leading digit is left out and comes back. -/
theorem toNat_one_append {m : Nat} (hlow : 2 ^ 23 ≤ m) (hhigh : m < 2 ^ 24) :
    (1#1 ++ BitVec.ofNat 23 m).toNat = m := by
  simp only [BitVec.toNat_append, BitVec.toNat_ofNat, Nat.shiftLeft_eq]
  change 2 ^ 23 ||| m % 2 ^ 23 = m
  rw [Nat.or_comm, Nat.or_two_pow_eq_add_of_lt (Nat.mod_lt m (Nat.two_pow_pos 23))]
  omega

theorem ofNat_ne_ofNat {a b : Nat} (ha : a < 2 ^ 8) (hb : b < 2 ^ 8) (h : a ≠ b) :
    BitVec.ofNat 8 a ≠ BitVec.ofNat 8 b := by
  intro heq
  have hnat := congrArg BitVec.toNat heq
  rw [BitVec.toNat_ofNat, BitVec.toNat_ofNat, Nat.mod_eq_of_lt ha, Nat.mod_eq_of_lt hb] at hnat
  exact h hnat

theorem unpackSign_packed {f : Format} (sign : Sign) (exponent : BitVec f.exponentBits)
    (mantissa : BitVec f.mantissaBitsWithoutImplicit) :
    unpackSign (packComponents f sign exponent mantissa) = sign.toBitVec := by
  have hbit : unpackSign (packComponents f sign exponent mantissa) =
      (BitVec.extractLsb (f.mantissaBitsWithoutImplicit + f.exponentBits)
        (f.mantissaBitsWithoutImplicit + f.exponentBits) (packComponents f sign exponent mantissa)).cast
          (by omega) := rfl
  apply BitVec.eq_of_getLsbD_eq
  intro i hi
  obtain rfl : i = 0 := by omega
  rw [hbit]
  simp [packComponents, BitVec.getLsbD_append, BitVec.getElem_append]

theorem pack_finite (f : Format) {m : Nat} (e : Int) (hpos : 0 < m) :
    pack f (.finite .positive m e hpos) =
      if 2 ^ f.exponentBits ≤ (e + f.exponentBias + f.mantissaBitsWithoutImplicit).toNat + 1 then
        packedInfinity f .positive
      else if m.log2 + 1 = f.mantissaBits then
        packComponents f .positive
          (BitVec.ofNat f.exponentBits (e + f.exponentBias + f.mantissaBitsWithoutImplicit).toNat)
          (BitVec.ofNat f.mantissaBitsWithoutImplicit m)
      else packComponents f .positive 0#_ (BitVec.ofNat f.mantissaBitsWithoutImplicit m) :=
  rfl

theorem unpack_of_normal {f : Format} {b : BitVec f.numBits} (htop : unpackExponent b ≠ -1#f.exponentBits)
    (hzero : unpackExponent b ≠ 0#f.exponentBits) :
    ∃ hpos, unpack f b = .finite (Sign.ofBitVec (unpackSign b)) (1#1 ++ unpackMantissa b).toNat
      ((unpackExponent b).toNat - (f.exponentBias + f.mantissaBitsWithoutImplicit)) hpos :=
  ⟨_, (if_neg htop).trans (if_neg hzero)⟩

theorem finite_congr {sign sign' : Sign} {m m' : Nat} {e e' : Int} (hpos : 0 < m) (hpos' : 0 < m')
    (hsign : sign = sign') (hm : m = m') (he : e = e') :
    UnpackedFloat.finite sign m e hpos = .finite sign' m' e' hpos' := by
  subst hsign hm he
  rfl

theorem unpack_pack_normal {m : Nat} {e : Int} (hlow : 2 ^ 23 ≤ m) (hhigh : m < 2 ^ 24) (he : -149 ≤ e)
    (he' : e ≤ 104) (hpos : 0 < m) :
    unpack Format.binary32 (pack Format.binary32 (.finite .positive m e hpos)) =
      .finite .positive m e hpos := by
  have hbiased : e + Format.binary32.exponentBias + Format.binary32.mantissaBitsWithoutImplicit = e + 150 := by
    change e + 127 + 23 = e + 150
    omega
  have hsmall : ¬2 ^ Format.binary32.exponentBits ≤ (e + 150).toNat + 1 := by
    change ¬256 ≤ (e + 150).toNat + 1
    omega
  have hdigits : 23 + 1 = Format.binary32.mantissaBits := rfl
  have hnotTop : BitVec.ofNat 8 (e + 150).toNat ≠ BitVec.ofNat 8 255 :=
    ofNat_ne_ofNat (by omega) (by decide) (by omega)
  have hnotZero : BitVec.ofNat 8 (e + 150).toNat ≠ BitVec.ofNat 8 0 :=
    ofNat_ne_ofNat (by omega) (by decide) (by omega)
  rw [pack_finite, hbiased, if_neg hsmall, log2_of_normal hlow hhigh, if_pos hdigits]
  obtain ⟨hleading, hunpack⟩ := @unpack_of_normal Format.binary32
    (packComponents Format.binary32 .positive (BitVec.ofNat 8 (e + 150).toNat) (BitVec.ofNat 23 m))
    (by rw [unpackExponent_packComponents]; exact hnotTop) (by rw [unpackExponent_packComponents]; exact hnotZero)
  refine hunpack.trans (finite_congr _ _ ?_ ?_ ?_)
  · rw [unpackSign_packed]
    rfl
  · rw [unpackMantissa_packComponents]
    exact toNat_one_append hlow hhigh
  · rw [unpackExponent_packComponents]
    change ((BitVec.ofNat 8 (e + 150).toNat).toNat : Int) - (127 + 23) = e
    rw [BitVec.toNat_ofNat, Nat.mod_eq_of_lt (by omega)]
    omega

/-! ## Rounding -/

theorem targetExponent_of_normal {m : Nat} {e : Int} (hlow : 2 ^ 23 ≤ m) (hhigh : m < 2 ^ 24) (he : -149 ≤ e) :
    Format.binary32.targetExponent (totalExponent m e) = e := by
  have hbits : Format.binary32.mantissaBits = 24 := rfl
  have hleast : Format.binary32.minExponent = -149 := rfl
  simp only [Format.targetExponent, totalExponent, log2_of_normal hlow hhigh, hbits, hleast]
  omega

theorem shiftToTargetExponent_normal {m : Nat} {e : Int} (hlow : 2 ^ 23 ≤ m) (hhigh : m < 2 ^ 24)
    (he : -149 ≤ e) :
    shiftToTargetExponent Format.binary32 m e .exact = (⟨m, false, false⟩, e) := by
  have hnone : (e - e).toNat = 0 := by omega
  simp only [shiftToTargetExponent, shiftToExponent, targetExponent_of_normal hlow hhigh he, hnone]
  exact Prod.ext rfl (Int.add_zero e)

/-- Nothing is rounded where all 24 digits are in use. -/
theorem roundWithAccuracy_normal {m : Nat} {e : Int} (hlow : 2 ^ 23 ≤ m) (hhigh : m < 2 ^ 24) (he : -149 ≤ e)
    (hpos : 0 < m) :
    roundWithAccuracy Format.binary32 .positive m e .exact = .finite .positive m e hpos := by
  have hkept := shiftToTargetExponent_normal hlow hhigh he
  -- What is rounded is placed once more, where it already stands.
  let placed := shiftToTargetExponent Format.binary32 m e .exact
  let placedAgain := shiftToTargetExponent Format.binary32 placed.1.roundedMantissa placed.2 .exact
  have hround : roundWithAccuracy Format.binary32 .positive m e .exact =
      if h : placedAgain.1.mantissa = 0 then .zero .positive
      else .finite .positive placedAgain.1.mantissa placedAgain.2 (Nat.pos_of_ne_zero h) := rfl
  have hplaced : placed = (⟨m, false, false⟩, e) := hkept
  have hplacedAgain : placedAgain = (⟨m, false, false⟩, e) := by
    change shiftToTargetExponent _ placed.1.roundedMantissa placed.2 _ = _
    rw [hplaced]
    exact hkept
  have hmantissa : placedAgain.1.mantissa = m := by rw [hplacedAgain]
  have hexponent : placedAgain.2 = e := by rw [hplacedAgain]
  rw [hround, dif_neg (by omega)]
  exact finite_congr _ _ rfl hmantissa hexponent

/-- Moved to the left until all 24 digits are in use. -/
theorem scaled_bounds {n : Nat} (hpos : n ≠ 0) (h : n < 2 ^ 24) :
    2 ^ 23 ≤ n * 2 ^ (23 - n.log2) ∧ n * 2 ^ (23 - n.log2) < 2 ^ 24 := by
  have hlog := log2_le hpos h
  obtain ⟨hlow, hhigh⟩ := (Nat.log2_eq_iff hpos).mp rfl
  constructor
  · calc 2 ^ 23 = 2 ^ n.log2 * 2 ^ (23 - n.log2) := by rw [← pow_add]; congr 1; omega
      _ ≤ n * 2 ^ (23 - n.log2) := Nat.mul_le_mul_right _ hlow
  · calc n * 2 ^ (23 - n.log2) < 2 ^ (n.log2 + 1) * 2 ^ (23 - n.log2) :=
        Nat.mul_lt_mul_of_pos_right hhigh (Nat.two_pow_pos _)
      _ = 2 ^ 24 := by rw [← pow_add]; congr 1; omega

theorem round_exact {n : Nat} (hpos : n ≠ 0) (h : n < 2 ^ 24) :
    ∃ hscaled, UnpackedFloat.round Format.binary32 .positive n 0 =
      .finite .positive (n * 2 ^ (23 - n.log2)) (n.log2 - 23) hscaled := by
  have hlog := log2_le hpos h
  obtain ⟨hlow, hhigh⟩ := scaled_bounds hpos h
  have htarget : Format.binary32.targetExponent (totalExponent n 0) = n.log2 - 23 := by
    have hbits : Format.binary32.mantissaBits = 24 := rfl
    have hleast : Format.binary32.minExponent = -149 := rfl
    simp only [Format.targetExponent, totalExponent, hbits, hleast]
    omega
  have hshift : (0 - ((n.log2 : Int) - 23)).toNat = 23 - n.log2 := by omega
  have hexponent : (0 : Int) - ↑(23 - n.log2) = n.log2 - 23 := by omega
  have hmoved : decreaseExponent n 0 (n.log2 - 23) = (n * 2 ^ (23 - n.log2), (n.log2 : Int) - 23) := by
    simp only [decreaseExponent, hshift, hexponent, Nat.shiftLeft_eq]
  have hround : UnpackedFloat.round Format.binary32 .positive n 0 =
      roundWithAccuracy Format.binary32 .positive
        (decreaseExponent n 0 (Format.binary32.targetExponent (totalExponent n 0))).1
        (decreaseExponent n 0 (Format.binary32.targetExponent (totalExponent n 0))).2 .exact := rfl
  refine ⟨by omega, ?_⟩
  rw [hround, htarget, hmoved]
  exact roundWithAccuracy_normal hlow hhigh (by omega) _

theorem toModel_singleOfInt {n : Nat} (h : n < UInt64.size) :
    (singleOfInt n).toModel = Float32.Model.pack (UnpackedFloat.normalize Format.binary32 n 0 .positive) := by
  have hword : (UInt64.ofNat n).toNat = n := by
    rw [UInt64.toNat_ofNat', Nat.mod_eq_of_lt h]
  have hpositive : ¬(n : Int) < 0 := by omega
  rw [singleOfInt, Int.natAbs_natCast, if_neg hpositive]
  change Float32.Model.pack (UnpackedFloat.normalize Format.binary32 (UInt64.ofNat n).toNat 0 _) = _
  rw [hword]

theorem normalize_exact {n : Nat} (hpos : n ≠ 0) (h : n < 2 ^ 24) :
    ∃ hscaled, UnpackedFloat.normalize Format.binary32 n 0 .positive =
      .finite .positive (n * 2 ^ (23 - n.log2)) (n.log2 - 23) hscaled := by
  have hcompare : compare (n : Int) 0 = .gt := Int.compare_eq_gt.mpr (by omega)
  obtain ⟨hscaled, hround⟩ := round_exact hpos h
  refine ⟨hscaled, ?_⟩
  rw [UnpackedFloat.normalize, hcompare]
  exact hround

theorem unpack_pack_normalize {n : Nat} (h : n < 2 ^ 24) :
    (Float32.Model.pack (UnpackedFloat.normalize Format.binary32 n 0 .positive)).unpack =
      UnpackedFloat.normalize Format.binary32 n 0 .positive := by
  by_cases hpos : n = 0
  · subst hpos
    rfl
  · obtain ⟨hlow, hhigh⟩ := scaled_bounds hpos h
    obtain ⟨hscaled, hnormalize⟩ := normalize_exact hpos h
    have hlog := log2_le hpos h
    rw [hnormalize]
    exact unpack_pack_normal hlow hhigh (by omega) (by omega) hscaled

theorem ofBits_toBits_singleOfInt {n : Nat} (h : n < 2 ^ 24) :
    Float32.ofBits (singleOfInt n).toBits = singleOfInt n := by
  have hmodel : Float32.Model.pack (singleOfInt n).toModel.unpack = (singleOfInt n).toModel := by
    rw [toModel_singleOfInt (Nat.lt_trans h (by decide)), unpack_pack_normalize h]
  exact congrArg Float32.ofModel hmodel

/-- A natural number of up to 24 digits is not rounded. -/
theorem singleOfInt_means {n : Nat} (h : n < 2 ^ 24) : Means (singleOfInt n) n := by
  rw [Means, toModel_singleOfInt (Nat.lt_trans h (by decide)), unpack_pack_normalize h]
  by_cases hpos : n = 0
  · subst hpos
    rfl
  · obtain ⟨hscaled, hnormalize⟩ := normalize_exact hpos h
    have hlog := log2_le hpos h
    have hexponent : (n.log2 : Int) - 23 = -((23 - n.log2 : Nat) : Int) := by omega
    rw [hnormalize]
    dsimp only
    rw [hexponent, zpow_neg, zpow_natCast, Nat.cast_mul, Nat.cast_pow, Nat.cast_ofNat]
    field_simp

end TextAnnotation.Decimal
