import Mathlib
import Plotter.Proofs.Rounding

/-!
Single precision numbers counted in the smallest positive one. Every finite number is a whole number of these
units, and a sum, a difference or a product is the exact one, rounded to 24 significant bits, as long as that
is not too large.
-/

set_option autoImplicit false

namespace Plotter.Binary

open Float.Model (Format UnpackedFloat)
open Float.Model.UnpackedFloat

/-- Every significand is as long as it can be, so that a number has one form only. -/
def Canonical : UnpackedFloat → Prop
  | .finite _ significand exponent _ =>
    significand < 2 ^ 24 ∧ -149 ≤ exponent ∧ exponent ≤ 104 ∧ (2 ^ 23 ≤ significand ∨ exponent = -149)
  | _ => True

theorem implicit_bit (fraction : BitVec 23) : (1#1 ++ fraction).toNat = 2 ^ 23 + fraction.toNat := by
  rw [BitVec.toNat_append, ← Nat.shiftLeft_add_eq_or_of_lt fraction.isLt]
  rfl

theorem unpack_bits_canonical (bits : BitVec 32) : Canonical (unpack Format.binary32 bits) := by
  have fraction : (@unpackMantissa Format.binary32 bits).toNat < 2 ^ 23 := BitVec.isLt _
  have biased : (@unpackExponent Format.binary32 bits).toNat < 2 ^ 8 := BitVec.isLt _
  rw [unpack]
  dsimp only
  by_cases full : @unpackExponent Format.binary32 bits = -1#8
  · rw [if_pos full]
    split <;> trivial
  · rw [if_neg full]
    by_cases empty : @unpackExponent Format.binary32 bits = 0#8
    · rw [if_pos empty]
      split
      · trivial
      · rw [empty]
        exact ⟨by omega, by decide, by decide, .inr (by decide)⟩
    · have below : (@unpackExponent Format.binary32 bits).toNat ≠ 255 := fun same => full (BitVec.eq_of_toNat_eq same)
      have above : (@unpackExponent Format.binary32 bits).toNat ≠ 0 := fun same => empty (BitVec.eq_of_toNat_eq same)
      have whole := implicit_bit (@unpackMantissa Format.binary32 bits)
      have bias : (Format.binary32.exponentBias + Format.binary32.mantissaBitsWithoutImplicit : Int) = 150 := rfl
      rw [if_neg empty, bias]
      refine ⟨?_, by omega, by omega, .inl ?_⟩ <;> rw [whole] <;> omega

theorem unpack_canonical (number : Float32) : Canonical number.toModel.unpack :=
  unpack_bits_canonical number.toModel.toBits.toBitVec

@[simp] theorem unpack_sign_pack (spec : Format) (sign : Sign) (exponent : BitVec spec.exponentBits)
    (fraction : BitVec spec.mantissaBitsWithoutImplicit) :
    unpackSign (packComponents spec sign exponent fraction) = sign.toBitVec := by
  ext index only
  simp [unpackSign, packComponents, BitVec.getLsbD_append, BitVec.getElem_append, Nat.lt_one_iff.mp only]

@[simp] theorem sign_of_bits (sign : Sign) : Sign.ofBitVec sign.toBitVec = sign := by
  cases sign <;> rfl

theorem unpack_normal (sign : Sign) (exponent : BitVec 8) (fraction : BitVec 23) (full : exponent.toNat ≠ 255)
    (empty : exponent.toNat ≠ 0) :
    unpack Format.binary32 (packComponents Format.binary32 sign exponent fraction) =
      .finite sign (2 ^ 23 + fraction.toNat) (exponent.toNat - 150) (by omega) := by
  have finite : exponent ≠ -1#8 := fun same => full (congrArg BitVec.toNat same)
  have normal : exponent ≠ 0#8 := fun same => empty (congrArg BitVec.toNat same)
  simp only [Float.Model.UnpackedFloat.unpack, unpackMantissa_packComponents, unpackExponent_packComponents,
    unpack_sign_pack, sign_of_bits, finite, normal, if_false, implicit_bit]
  rfl

theorem unpack_subnormal (sign : Sign) (fraction : BitVec 23) (positive : 0 < fraction.toNat) :
    unpack Format.binary32 (packComponents Format.binary32 sign 0#8 fraction) =
      .finite sign fraction.toNat (-149) positive := by
  have finite : (0#8 : BitVec 8) ≠ -1#8 := by decide
  have nonzero : fraction ≠ 0#23 := by
    intro same
    rw [same] at positive
    exact absurd positive (by decide)
  simp only [Float.Model.UnpackedFloat.unpack, unpackMantissa_packComponents, unpackExponent_packComponents,
    unpack_sign_pack, sign_of_bits, finite, nonzero, if_false, if_true, dif_neg, not_false_eq_true]
  rfl

theorem unpack_pack (number : UnpackedFloat) (canonical : Canonical number) :
    (Float32.Model.pack number).unpack = number := by
  cases number with
  | infinity sign => cases sign <;> rfl
  | notANumber => rfl
  | zero sign => cases sign <;> rfl
  | finite sign significand exponent positive =>
      obtain ⟨short, deep, high, long⟩ := canonical
      have bias : exponent + (Format.binary32.exponentBias : Int) +
          (Format.binary32.mantissaBitsWithoutImplicit : Int) = exponent + 150 := Int.add_assoc _ _ _
      have bits : Format.binary32.mantissaBits = 24 := rfl
      have inside : ¬ 2 ^ 8 ≤ (exponent + 150).toNat + 1 := by omega
      have nonzero : significand ≠ 0 := Nat.pos_iff_ne_zero.mp positive
      change unpack Format.binary32 (pack Format.binary32 (.finite sign significand exponent positive)) = _
      simp only [Float.Model.UnpackedFloat.pack, bias, bits, inside, if_false]
      -- A leading bit that is packed away comes back only if the exponent field is not zero.
      by_cases normal : 2 ^ 23 ≤ significand
      · have leading : significand.log2 + 1 = 24 := congrArg (· + 1) ((Nat.log2_eq_iff nonzero).mpr ⟨normal, short⟩)
        have biased : (BitVec.ofNat 8 (exponent + 150).toNat).toNat = (exponent + 150).toNat :=
          Nat.mod_eq_of_lt (by omega)
        have fraction : (BitVec.ofNat 23 significand).toNat = significand - 2 ^ 23 := by
          rw [BitVec.toNat_ofNat]
          omega
        rw [if_pos leading, unpack_normal _ _ _ (by omega) (by omega)]
        congr 1 <;> omega
      · have leading : ¬ significand.log2 + 1 = 24 := by
          have := (Nat.log2_lt nonzero).mpr (Nat.not_le.mp normal)
          omega
        have fraction : (BitVec.ofNat 23 significand).toNat = significand := Nat.mod_eq_of_lt (by omega)
        rw [if_neg leading, unpack_subnormal _ _ (by omega)]
        congr 1
        omega

def worth : UnpackedFloat → Int
  | .finite sign significand exponent _ => sign.apply (significand * 2 ^ (exponent + 149).toNat : Nat)
  | _ => 0

def ceiling : Nat := 2 ^ 277

theorem shift_right (significand count : Nat) :
    ExtendedMantissa.ofMantissaAndAccuracy significand .exact >>> count =
      ⟨significand / 2 ^ count, decide (2 ^ count ≤ 2 * (significand % 2 ^ count)),
        decide (2 * (significand % 2 ^ count) ≠ 0 ∧ 2 * (significand % 2 ^ count) ≠ 2 ^ count)⟩ := by
  induction count with
  | zero => simp [HShiftRight.hShiftRight, Nat.repeat, ExtendedMantissa.ofMantissaAndAccuracy, Nat.mod_one]
  | succ count ih =>
      have step : ExtendedMantissa.ofMantissaAndAccuracy significand .exact >>> (count + 1) =
          (ExtendedMantissa.ofMantissaAndAccuracy significand .exact >>> count).shiftRightOne := rfl
      have remainder := Nat.mod_pow_succ (b := 2) (k := count) (x := significand)
      have small := Nat.mod_lt significand (Nat.two_pow_pos count)
      have double := Nat.pow_succ (n := 2) (m := count)
      rw [step, ih, ExtendedMantissa.shiftRightOne, remainder, double, Nat.div_div_eq_div_mul]
      generalize significand / 2 ^ count = quotient at *
      generalize significand % 2 ^ count = rest at *
      generalize 2 ^ count = unit at *
      -- The bit shifted out becomes the rounding bit, and the old one joins the sticky bits.
      rcases Nat.mod_two_eq_zero_or_one quotient with bit | bit
      all_goals
        rw [bit]
        congr 1
        all_goals
          rw [Bool.eq_iff_iff]
          simp only [bne_iff_ne, Bool.or_eq_true, decide_eq_true_eq]
          omega

theorem rounded_mantissa (significand count : Nat) :
    (ExtendedMantissa.ofMantissaAndAccuracy significand .exact >>> count).roundedMantissa =
      shiftToEven significand count := by
  have small := Nat.mod_lt significand (Nat.two_pow_pos count)
  rw [shift_right]
  simp only [shiftToEven, Nat.pow_eq]
  by_cases less : 2 * (significand % 2 ^ count) < 2 ^ count
  · rw [if_pos less, decide_eq_false (Nat.not_le.mpr less)]
    cases decide (2 * (significand % 2 ^ count) ≠ 0 ∧ 2 * (significand % 2 ^ count) ≠ 2 ^ count) <;> rfl
  · rw [if_neg less, decide_eq_true (Nat.not_lt.mp less)]
    by_cases more : 2 ^ count < 2 * (significand % 2 ^ count)
    · rw [if_pos more, decide_eq_true (by omega)]
      rfl
    · rw [if_neg more, decide_eq_false (by omega)]
      rfl

theorem target_exponent (significand : Nat) (exponent : Int) :
    Format.binary32.targetExponent (Float.Model.totalExponent significand exponent) =
      max (significand.log2 + exponent - 23) (-149) := by
  have deepest : Format.binary32.minExponent = -149 := by decide
  have bits : Format.binary32.mantissaBits = 24 := rfl
  rw [Format.targetExponent, Float.Model.totalExponent, deepest, bits]
  congr 1
  omega

theorem shift_carry (significand : Nat) (exponent : Int) (short : significand < 2 ^ 24) (deep : -149 ≤ exponent) :
    shiftToTargetExponent Format.binary32 significand exponent .exact = (⟨significand, false, false⟩, exponent) := by
  have leading : significand.log2 ≤ 23 := by
    by_cases zero : significand = 0
    · simp [zero]
    · have := (Nat.log2_lt zero).mpr short
      omega
  have none : (max (significand.log2 + exponent - 23) (-149) - exponent).toNat = 0 := by omega
  rw [shiftToTargetExponent, target_exponent, shiftToExponent, none]
  simp [shift_right, Nat.mod_one]

theorem shift_carry_full (exponent : Int) (deep : -149 ≤ exponent) :
    shiftToTargetExponent Format.binary32 (2 ^ 24) exponent .exact = (⟨2 ^ 23, false, false⟩, exponent + 1) := by
  have once : (max (((2 ^ 24).log2 : Nat) + exponent - 23) (-149) - exponent).toNat = 1 := by
    rw [Nat.log2_two_pow]
    omega
  rw [shiftToTargetExponent, target_exponent, shiftToExponent, once]
  rfl

theorem round_with_accuracy (sign : Sign) (significand : Nat) (exponent target : Int) (count : Nat)
    (same : target = max (significand.log2 + exponent - 23) (-149)) (shifted : exponent + count = target)
    (short : shiftToEven significand count ≤ 2 ^ 24) :
    roundWithAccuracy Format.binary32 sign significand exponent .exact =
      if zero : shiftToEven significand count = 0 then .zero sign
      else if shiftToEven significand count < 2 ^ 24 then
        .finite sign (shiftToEven significand count) target (Nat.pos_of_ne_zero zero)
      else .finite sign (2 ^ 23) (target + 1) (Nat.two_pow_pos 23) := by
  have deep : -149 ≤ target := by omega
  have distance : (max (significand.log2 + exponent - 23) (-149) - exponent).toNat = count := by omega
  have first : shiftToTargetExponent Format.binary32 significand exponent .exact =
      (ExtendedMantissa.ofMantissaAndAccuracy significand .exact >>> count, target) := by
    rw [shiftToTargetExponent, target_exponent, shiftToExponent, distance, shifted]
  rw [roundWithAccuracy, first]
  dsimp only
  rw [rounded_mantissa]
  by_cases fits : shiftToEven significand count < 2 ^ 24
  · rw [shift_carry _ target fits deep]
    simp only [fits, if_true]
  · have full : shiftToEven significand count = 2 ^ 24 := by omega
    rw [full, shift_carry_full target deep]
    rfl

/-- Finite, and the nearest to the exact value, which is counted in units of the place `low` below the smallest
number. -/
structure Rounds (low : Nat) (exact : Int) (result : UnpackedFloat) : Prop where
  canonical : Canonical result
  finite : result.isFinite = true
  nearest : worth result = exact.sign * rounded low exact.natAbs

theorem zero_rounds (low : Nat) (sign : Sign) : Rounds low 0 (.zero sign) := ⟨trivial, rfl, by simp [worth]⟩

theorem sign_apply_rounded (sign : Sign) (low number : Nat) (positive : 0 < number) :
    (sign.apply (number : Int)).sign * (rounded low (sign.apply (number : Int)).natAbs : Int) =
      sign.apply (rounded low number : Int) := by
  cases sign with
  | positive => simp [Sign.apply, Int.sign_eq_one_of_pos (Int.natCast_pos.mpr positive)]
  | negative => simp [Sign.apply, Int.sign_eq_one_of_pos (Int.natCast_pos.mpr positive)]

@[simp] theorem sign_apply_size (sign : Sign) (number : Nat) : (sign.apply (number : Int)).natAbs = number := by
  cases sign <;> simp [Sign.apply]

theorem log2_scaled (number scale : Nat) (positive : 0 < number) : (number * 2 ^ scale).log2 = number.log2 + scale := by
  have nonzero : number ≠ 0 := Nat.pos_iff_ne_zero.mp positive
  have scaled : number * 2 ^ scale ≠ 0 := Nat.pos_iff_ne_zero.mp (Nat.mul_pos positive (Nat.two_pow_pos scale))
  rw [Nat.log2_eq_iff scaled, Nat.pow_add, show number.log2 + scale + 1 = number.log2 + 1 + scale by omega, Nat.pow_add]
  exact ⟨Nat.mul_le_mul_right _ (Nat.log2_self_le nonzero),
    Nat.mul_lt_mul_of_pos_right Nat.lt_log2_self (Nat.two_pow_pos scale)⟩

theorem power_small (place : Nat) (narrow : place < 277) : 2 ^ place < ceiling := by
  rw [ceiling]
  apply Nat.pow_lt_pow_right (Nat.lt_add_one 1)
  exact narrow

theorem power_large (place : Nat) (wide : 277 ≤ place) : ceiling ≤ 2 ^ place := by
  rw [ceiling]
  apply Nat.pow_le_pow_right (Nat.succ_pos 1)
  exact wide

theorem place_bound (least kept place : Nat) (long : 2 ^ least ≤ kept) (small : kept * 2 ^ place < ceiling) :
    least + place < 277 := by
  apply Nat.lt_of_not_le
  intro wide
  have large := power_large (least + place) wide
  rw [Nat.pow_add] at large
  exact Nat.not_lt.mpr (Nat.le_trans large (Nat.mul_le_mul_right _ long)) small

theorem round_with_accuracy_rounds (sign : Sign) (significand scale low number : Nat) (exponent : Int)
    (positive : 0 < significand) (scaled : number = significand * 2 ^ scale) (level : exponent + 149 + low = scale)
    (fine : scale ≤ lastPlace low number) (small : rounded low number < ceiling) :
    Rounds low (sign.apply (number : Int)) (roundWithAccuracy Format.binary32 sign significand exponent .exact) := by
  have whole : 0 < number := by
    rw [scaled]
    exact Nat.mul_pos positive (Nat.two_pow_pos scale)
  have lower := low_le_last_place low number
  obtain ⟨count, last⟩ := Nat.exists_eq_add_of_le' fine
  have places : max (significand.log2 + scale - 23) low = count + scale := by
    rw [← last, lastPlace, scaled, log2_scaled significand scale positive]
  have rounding : shiftToEven number (lastPlace low number) = shiftToEven significand count := by
    rw [last, scaled, shift_to_even_scale]
  have short : shiftToEven significand count ≤ 2 ^ 24 := rounding ▸ significand_le low number
  have long : 2 ^ 23 ≤ shiftToEven significand count ∨ count + scale = low := by
    by_cases bottom : lastPlace low number = low
    · exact .inr (last.symm.trans bottom)
    · exact .inl (rounding ▸ le_significand low number bottom)
  have value : rounded low number = shiftToEven significand count * 2 ^ (exponent + count + 149).toNat := by
    rw [rounded, rounding, last]
    congr 2
    omega
  have nearest := sign_apply_rounded sign low number whole
  rw [value] at small nearest
  rw [round_with_accuracy sign significand exponent (exponent + count) count (by omega) rfl short]
  -- Three ends: nothing is left, it fits, or the rounding has carried into one bit too many.
  generalize shiftToEven significand count = kept at *
  by_cases zero : kept = 0
  · rw [dif_pos zero]
    refine ⟨trivial, rfl, ?_⟩
    rw [nearest, zero, Nat.zero_mul]
    cases sign <;> rfl
  · rw [dif_neg zero]
    by_cases fits : kept < 2 ^ 24
    · rw [if_pos fits]
      refine ⟨⟨fits, by omega, ?_, long.imp_right (by omega)⟩, rfl, nearest.symm⟩
      rcases long with long | bottom
      · have := place_bound 23 kept _ long small
        omega
      · omega
    · have full : kept = 2 ^ 24 := by omega
      subst full
      have := place_bound 24 _ _ (Nat.le_refl _) small
      have carried : 2 ^ 23 * 2 ^ (exponent + count + 1 + 149).toNat = 2 ^ 24 * 2 ^ (exponent + count + 149).toNat := by
        rw [← Nat.pow_add, ← Nat.pow_add]
        congr 1
        omega
      rw [if_neg fits]
      refine ⟨⟨by decide, by omega, by omega, .inl (Nat.le_refl _)⟩, rfl, ?_⟩
      rw [nearest, worth, carried]

theorem round_rounds (sign : Sign) (significand scale : Nat) (exponent : Int) (positive : 0 < significand)
    (level : exponent + 149 = scale) (small : rounded 0 (significand * 2 ^ scale) < ceiling) :
    Rounds 0 (sign.apply (significand * 2 ^ scale : Nat)) (UnpackedFloat.round Format.binary32 sign significand exponent) := by
  -- The significand is first made long enough for its last place.
  obtain ⟨more, target, lengthened, finer⟩ : ∃ more target,
      (exponent - max (significand.log2 + exponent - 23) (-149)).toNat = more ∧ target + more = scale := by
    refine ⟨_, scale - (exponent - max (significand.log2 + exponent - 23) (-149)).toNat, rfl, ?_⟩
    omega
  have same : significand * 2 ^ scale = significand * 2 ^ more * 2 ^ target := by
    rw [Nat.mul_assoc, ← Nat.pow_add, Nat.add_comm more, finer]
  rw [UnpackedFloat.round]
  dsimp only
  rw [decreaseExponent, target_exponent, lengthened, Nat.shiftLeft_eq]
  apply round_with_accuracy_rounds sign _ target 0 _ _ (Nat.mul_pos positive (Nat.two_pow_pos more)) same
  · omega
  · rw [lastPlace, log2_scaled significand scale positive]
    omega
  · exact small

theorem normalize_rounds (significand : Int) (scale : Nat) (exponent : Int) (level : exponent + 149 = scale)
    (small : rounded 0 (significand * 2 ^ scale).natAbs < ceiling) :
    Rounds 0 (significand * 2 ^ scale) (UnpackedFloat.normalize Format.binary32 significand exponent .positive) := by
  rcases Int.lt_trichotomy significand 0 with negative | zero | positive
  · have below : compare significand 0 = .lt := Int.compare_eq_lt.mpr negative
    have size : significand * 2 ^ scale = Sign.negative.apply ((-significand).toNat * 2 ^ scale : Nat) := by
      rw [Sign.apply, Int.natCast_mul, Int.toNat_of_nonneg (by omega), Int.natCast_pow, Int.neg_mul, Int.neg_neg]
      rfl
    rw [size, sign_apply_size] at small
    rw [size, UnpackedFloat.normalize, below]
    exact round_rounds .negative _ scale exponent (by omega) level small
  · subst zero
    rw [Int.zero_mul]
    exact zero_rounds 0 .positive
  · have above : compare significand 0 = .gt := Int.compare_eq_gt.mpr positive
    have size : significand * 2 ^ scale = Sign.positive.apply (significand.toNat * 2 ^ scale : Nat) := by
      rw [Sign.apply, Int.natCast_mul, Int.toNat_of_nonneg (by omega), Int.natCast_pow]
      rfl
    rw [size, sign_apply_size] at small
    rw [size, UnpackedFloat.normalize, above]
    exact round_rounds .positive _ scale exponent (by omega) level small

theorem canonical_rounds (number : UnpackedFloat) (canonical : Canonical number) (finite : number.isFinite = true) :
    Rounds 0 (worth number) number := by
  refine ⟨canonical, finite, ?_⟩
  cases number with
  | infinity sign => cases finite
  | notANumber => cases finite
  | zero sign => simp [worth]
  | finite sign significand exponent positive =>
      have whole : 0 < significand * 2 ^ (exponent + 149).toNat := Nat.mul_pos positive (Nat.two_pow_pos _)
      rw [worth, sign_apply_rounded sign 0 _ whole, rounded_exact 0 significand _ canonical.1 (Nat.zero_le _),
        Nat.sub_zero]

theorem decrease_scaled (significand scale : Nat) (exponent lowest : Int) (below : lowest ≤ exponent)
    (level : lowest + 149 = scale) :
    (decreaseExponent significand exponent lowest).1 * 2 ^ scale = significand * 2 ^ (exponent + 149).toNat := by
  rw [decreaseExponent, Nat.shiftLeft_eq, Nat.mul_assoc, ← Nat.pow_add]
  congr 2
  omega

theorem sign_mul_apply (sign other : Sign) (number factor : Nat) :
    sign.apply (number : Int) * other.apply (factor : Int) = (sign * other).apply ((number * factor : Nat) : Int) := by
  cases sign with
  | negative =>
      cases other with
      | negative => exact Int.neg_mul_neg _ _
      | positive => exact Int.neg_mul _ _
  | positive =>
      cases other with
      | negative => exact Int.mul_neg _ _
      | positive => rfl

theorem add_rounds (left right : UnpackedFloat) (leftCanonical : Canonical left) (rightCanonical : Canonical right)
    (leftFinite : left.isFinite = true) (rightFinite : right.isFinite = true)
    (small : rounded 0 (worth left + worth right).natAbs < ceiling) :
    Rounds 0 (worth left + worth right) (add Format.binary32 left right) := by
  cases left with
  | infinity sign => cases leftFinite
  | notANumber => cases leftFinite
  | zero sign =>
      rw [show worth (.zero sign) = 0 from rfl, Int.zero_add]
      cases right with
      | infinity other => cases rightFinite
      | notANumber => cases rightFinite
      | zero other => cases sign <;> cases other <;> exact zero_rounds 0 _
      | finite other significand exponent positive => exact canonical_rounds _ rightCanonical rfl
  | finite sign significand exponent positive =>
      cases right with
      | infinity other => cases rightFinite
      | notANumber => cases rightFinite
      | zero other =>
          rw [show worth (.zero other) = 0 from rfl, Int.add_zero]
          exact canonical_rounds _ leftCanonical rfl
      | finite other addend place nonzero =>
          -- Both terms are brought to the lower of the two exponents, where the sum is exact.
          obtain ⟨scale, level⟩ : ∃ scale : Nat, min exponent place + 149 = scale := by
            have := leftCanonical.2.1
            have := rightCanonical.2.1
            exact ⟨(min exponent place + 149).toNat, by omega⟩
          have sum : worth (.finite sign significand exponent positive) + worth (.finite other addend place nonzero) =
              (sign.apply (decreaseExponent significand exponent (min exponent place)).1 +
                other.apply (decreaseExponent addend place (min exponent place)).1) * 2 ^ scale := by
            have power : (2 : Int) ^ scale = Sign.positive.apply ((2 ^ scale : Nat) : Int) := by
              rw [Sign.apply, Int.natCast_pow]
              rfl
            rw [power, Int.add_mul, sign_mul_apply, sign_mul_apply,
              decrease_scaled _ _ _ _ (Int.min_le_left _ _) level, decrease_scaled _ _ _ _ (Int.min_le_right _ _) level]
            cases sign <;> cases other <;> rfl
          rw [sum] at small ⊢
          exact normalize_rounds _ scale _ level small

theorem neg_canonical (number : UnpackedFloat) (canonical : Canonical number) : Canonical number.neg := by
  cases number <;> exact canonical

@[simp] theorem neg_finite (number : UnpackedFloat) : number.neg.isFinite = number.isFinite := by
  cases number <;> rfl

@[simp] theorem neg_worth (number : UnpackedFloat) : worth number.neg = - worth number := by
  cases number with
  | finite sign significand exponent positive =>
      cases sign
      · exact (Int.neg_neg _).symm
      · rfl
  | _ => rfl

theorem sub_unpacked (left right : UnpackedFloat) :
    sub Format.binary32 left right = add Format.binary32 left right.neg := by
  cases left with
  | finite sign significand exponent positive =>
      cases right with
      | finite other addend place nonzero =>
          have opposite : ∀ number : Int, (-other).apply number = -other.apply number := by
            intro number
            cases other
            · exact (Int.neg_neg _).symm
            · rfl
          simp only [sub, neg, add, opposite, Int.sub_eq_add_neg]
      | _ => rfl
  | _ => cases right <;> rfl

theorem mul_rounds (left right : UnpackedFloat) (leftCanonical : Canonical left) (rightCanonical : Canonical right)
    (leftFinite : left.isFinite = true) (rightFinite : right.isFinite = true)
    (small : rounded 149 (worth left * worth right).natAbs < ceiling) :
    Rounds 149 (worth left * worth right) (mul Format.binary32 left right) := by
  cases left with
  | infinity sign => cases leftFinite
  | notANumber => cases leftFinite
  | zero sign =>
      rw [show worth (.zero sign) = 0 from rfl, Int.zero_mul]
      cases right with
      | infinity other => cases rightFinite
      | notANumber => cases rightFinite
      | zero other => exact zero_rounds 149 _
      | finite other factor place nonzero => exact zero_rounds 149 _
  | finite sign significand exponent positive =>
      cases right with
      | infinity other => cases rightFinite
      | notANumber => cases rightFinite
      | zero other =>
          rw [show worth (.zero other) = 0 from rfl, Int.mul_zero]
          exact zero_rounds 149 _
      | finite other factor place nonzero =>
          obtain ⟨_, deep, _, long⟩ := leftCanonical
          obtain ⟨_, low, _, wide⟩ := rightCanonical
          have places : 2 ^ (exponent + place + 298).toNat = 2 ^ (exponent + 149).toNat * 2 ^ (place + 149).toNat := by
            rw [← Nat.pow_add]
            congr 1
            omega
          have product : worth (.finite sign significand exponent positive) *
              worth (.finite other factor place nonzero) =
                (sign * other).apply (significand * factor * 2 ^ (exponent + place + 298).toNat : Nat) := by
            rw [worth, worth, sign_mul_apply, places, Nat.mul_mul_mul_comm]
          have whole : 0 < significand * factor := Nat.mul_pos positive nonzero
          -- A factor that is not at the lowest place has a full significand, and so has the product.
          have leading : exponent + place ≠ -298 → 23 ≤ (significand * factor).log2 := by
            intro above
            apply (Nat.le_log2 (Nat.pos_iff_ne_zero.mp whole)).mpr
            rcases long with long | bottom
            · exact Nat.le_trans long (Nat.le_mul_of_pos_right _ nonzero)
            · exact Nat.le_trans (wide.resolve_right (by omega)) (Nat.le_mul_of_pos_left _ positive)
          rw [product, sign_apply_size] at small
          rw [product]
          apply round_with_accuracy_rounds (sign * other) _ _ 149 _ _ whole rfl
          · omega
          · rw [lastPlace, log2_scaled _ _ whole]
            omega
          · exact small

def units (number : Float32) : Int := worth number.toModel.unpack

theorem packed_units (low : Nat) (exact : Int) (number : UnpackedFloat) (result : Float32)
    (packed : result.toModel = .pack number) (rounds : Rounds low exact number) :
    result.isFinite = true ∧ units result = exact.sign * rounded low exact.natAbs := by
  have unpacked : result.toModel.unpack = number := by rw [packed, unpack_pack number rounds.canonical]
  refine ⟨?_, ?_⟩
  · rw [Float32.isFinite, Float32.Model.isFinite, unpacked]
    exact rounds.finite
  · rw [units, unpacked]
    exact rounds.nearest

theorem add_units (left right : Float32) (leftFinite : left.isFinite = true) (rightFinite : right.isFinite = true)
    (small : rounded 0 (units left + units right).natAbs < ceiling) :
    (left + right).isFinite = true ∧
      units (left + right) = (units left + units right).sign * rounded 0 (units left + units right).natAbs :=
  packed_units 0 _ _ _ rfl
    (add_rounds _ _ (unpack_canonical left) (unpack_canonical right) leftFinite rightFinite small)

theorem unpack_neg (number : Float32) : (-number).toModel.unpack = number.toModel.unpack.neg :=
  unpack_pack _ (neg_canonical _ (unpack_canonical number))

theorem neg_units (number : Float32) : (-number).isFinite = number.isFinite ∧ units (-number) = -units number := by
  rw [Float32.isFinite, Float32.isFinite, Float32.Model.isFinite, Float32.Model.isFinite, units, units, unpack_neg]
  exact ⟨neg_finite _, neg_worth _⟩

theorem sub_as_add (left right : Float32) : left - right = left + -right := by
  have sum : left + -right = ⟨.pack (add Format.binary32 left.toModel.unpack (-right).toModel.unpack)⟩ := rfl
  rw [sum, unpack_neg, ← sub_unpacked]
  rfl

theorem mul_units (left right : Float32) (leftFinite : left.isFinite = true) (rightFinite : right.isFinite = true)
    (small : rounded 149 (units left * units right).natAbs < ceiling) :
    (left * right).isFinite = true ∧
      units (left * right) = (units left * units right).sign * rounded 149 (units left * units right).natAbs :=
  packed_units 149 _ _ _ rfl
    (mul_rounds _ _ (unpack_canonical left) (unpack_canonical right) leftFinite rightFinite small)

theorem abs_canonical (number : UnpackedFloat) (canonical : Canonical number) : Canonical number.abs := by
  cases number <;> exact canonical

theorem abs_units (number : Float32) :
    number.abs.isFinite = number.isFinite ∧ units number.abs = (units number).natAbs := by
  have unpacked : number.abs.toModel.unpack = number.toModel.unpack.abs :=
    unpack_pack _ (abs_canonical _ (unpack_canonical number))
  rw [Float32.isFinite, Float32.isFinite, Float32.Model.isFinite, Float32.Model.isFinite, units, units, unpacked]
  cases number.toModel.unpack with
  | finite sign significand exponent positive =>
      refine ⟨rfl, ?_⟩
      simp only [worth, sign_apply_size]
      rfl
  | _ => exact ⟨rfl, rfl⟩

theorem units_short (number : Float32) : ∃ significand scale, significand < 2 ^ 24 ∧
    (units number).natAbs = significand * 2 ^ scale := by
  have canonical := unpack_canonical number
  rw [units]
  cases unpacked : number.toModel.unpack with
  | finite sign significand exponent positive =>
      rw [unpacked] at canonical
      exact ⟨significand, _, canonical.1, by rw [worth, sign_apply_size]⟩
  | _ => exact ⟨0, 0, by decide, rfl⟩

theorem size_le_one (significand : Nat) (exponent : Int) (short : significand < 2 ^ 24)
    (limited : ((compare exponent (-23)).then (compare significand (2 ^ 23))).isLE = true) :
    significand * 2 ^ (exponent + 149).toNat ≤ 2 ^ 149 := by
  rcases Int.lt_trichotomy exponent (-23) with lower | same | higher
  · calc significand * 2 ^ (exponent + 149).toNat ≤ 2 ^ 24 * 2 ^ (exponent + 149).toNat :=
          Nat.mul_le_mul_right _ (Nat.le_of_lt short)
      _ = 2 ^ (24 + (exponent + 149).toNat) := (Nat.pow_add _ _ _).symm
      _ ≤ 2 ^ 149 := Nat.pow_le_pow_right (by decide) (by omega)
  · subst same
    have least : significand ≤ 2 ^ 23 := Nat.isLE_compare.mp limited
    exact Nat.mul_le_mul_right (2 ^ 126) least
  · rw [Int.compare_eq_gt.mpr higher] at limited
    cases limited

theorem fraction_units (factor : Float32) (positive : 0 < factor) (limited : factor ≤ 1) :
    factor.isFinite = true ∧ 0 ≤ units factor ∧ units factor ≤ 2 ^ 149 := by
  have canonical := unpack_canonical factor
  have above : UnpackedFloat.lt (.zero .positive) factor.toModel.unpack = true := of_decide_eq_true positive
  have below : factor.toModel.unpack.le (.finite .positive (2 ^ 23) (-23) (Nat.two_pow_pos 23)) = true :=
    of_decide_eq_true limited
  rw [Float32.isFinite, Float32.Model.isFinite, units]
  generalize factor.toModel.unpack = number at *
  cases number with
  | notANumber => cases below
  | infinity sign =>
      cases sign with
      | negative => cases above
      | positive => cases below
  | zero sign => exact ⟨rfl, Int.le_refl _, Int.natCast_nonneg (2 ^ 149)⟩
  | finite sign significand exponent nonzero =>
      cases sign with
      | negative => cases above
      | positive =>
          refine ⟨rfl, Int.natCast_nonneg _, ?_⟩
          exact Int.ofNat_le.mpr (size_le_one significand exponent canonical.1 below)

end Plotter.Binary
