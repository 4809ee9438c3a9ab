import Mathlib.Tactic.FieldSimp
import RemoteQuery.Proofs.Decimal.Word
set_option autoImplicit false

/-! No operation falls short: of two sizes, the result is not below any size that the
exact sum, product or quotient reaches. -/

namespace RemoteQuery.Decimal

open Float.Model Float.Model.UnpackedFloat

theorem two_zpow_mul_toNat (exponent : Int) :
    (2 : ℚ) ^ exponent * 2 ^ (-exponent).toNat = 2 ^ exponent.toNat := by
  rw [← zpow_natCast, ← zpow_natCast, ← zpow_add₀ two_ne_zero]
  congr 1
  omega

theorem two_pow_le_mul {number total count : Nat} (some : 0 < number)
    (long : total ≤ number.log2 + count) : 2 ^ total ≤ number * 2 ^ count :=
  calc 2 ^ total ≤ 2 ^ (number.log2 + count) := Nat.pow_le_pow_right two_pos long
    _ = 2 ^ number.log2 * 2 ^ count := Nat.pow_add _ _ _
    _ ≤ number * 2 ^ count := Nat.mul_le_mul_right _ (Nat.log2_self_le (Nat.ne_of_gt some))

/-! ### The nearest size of a fraction -/

theorem le_roundedQuotient (numerator denominator : Nat) :
    numerator / denominator ≤ roundedQuotient numerator denominator := by
  unfold roundedQuotient
  dsimp only
  split
  · exact Nat.le_refl _
  · split <;> omega

/-- The exponent at which a fraction has a mantissa of full precision, unless it is the
least one. -/
def scale (numerator denominator : Nat) : Int :=
  let guess : Int := (Nat.log2 numerator : Int) - (Nat.log2 denominator : Int) - 52
  max (if numerator * 2 ^ (-guess).toNat < mantissaUnit * (denominator * 2 ^ guess.toNat)
    then guess - 1 else guess) (-1074)

theorem nearestBits_eq (numerator denominator : Nat) (some : numerator ≠ 0)
    (defined : denominator ≠ 0) :
    nearestBits numerator denominator
      = min ((scale numerator denominator + 1074).toNat * mantissaUnit
          + roundedQuotient (numerator * 2 ^ (-scale numerator denominator).toNat)
            (denominator * 2 ^ (scale numerator denominator).toNat)) infinityBits := by
  unfold nearestBits
  rw [if_neg (by simp [some, defined])]
  rfl

theorem mantissaUnit_le_scaled (numerator denominator : Nat) (some : 0 < numerator)
    (above : -1074 < scale numerator denominator) :
    mantissaUnit * (denominator * 2 ^ (scale numerator denominator).toNat)
      ≤ numerator * 2 ^ (-scale numerator denominator).toNat := by
  unfold scale at *
  dsimp only at *
  generalize guessed : (Nat.log2 numerator : Int) - (Nat.log2 denominator : Int) - 52 = guess at *
  split at above
  · have here : max (guess - 1) (-1074) = guess - 1 := by omega
    rw [if_pos (by assumption), here]
    have most := Nat.le_of_lt (Nat.lt_log2_self (n := denominator))
    calc mantissaUnit * (denominator * 2 ^ (guess - 1).toNat)
        ≤ 2 ^ 52 * (2 ^ (denominator.log2 + 1) * 2 ^ (guess - 1).toNat) :=
          Nat.mul_le_mul_left _ (Nat.mul_le_mul_right _ most)
      _ = 2 ^ (52 + (denominator.log2 + 1 + (guess - 1).toNat)) := by
          rw [← Nat.pow_add, ← Nat.pow_add]
      _ ≤ numerator * 2 ^ (-(guess - 1)).toNat := two_pow_le_mul some (by omega)
  · have here : max guess (-1074) = guess := by omega
    rw [if_neg (by assumption), here]
    omega

theorem quotient_lt (top bottom : Nat) (exponent : Int) (defined : 0 < bottom) :
    (top : ℚ) / bottom * 2 ^ exponent < ((top / bottom : Nat) + 1) * (2 : ℚ) ^ exponent := by
  have within : (top : ℚ) < bottom * ((top / bottom : Nat) + 1) := by
    exact_mod_cast Nat.lt_mul_div_succ top defined
  refine mul_lt_mul_of_pos_right ?_ (zpow_pos two_pos _)
  rw [div_lt_iff₀ (by exact_mod_cast defined), mul_comm]
  exact within

theorem scaled_eq (numerator denominator : Nat) (exponent : Int) (defined : 0 < denominator) :
    (numerator : ℚ) / denominator
      = ((numerator * 2 ^ (-exponent).toNat : Nat) : ℚ)
        / (denominator * 2 ^ exponent.toNat : Nat) * 2 ^ exponent := by
  have someDenominator : (denominator : ℚ) ≠ 0 := by exact_mod_cast Nat.ne_of_gt defined
  push_cast
  rw [← two_zpow_mul_toNat exponent]
  field_simp

private theorem nearestBits_covers (numerator denominator : Nat) (defined : 0 < denominator) :
    Covers (nearestBits numerator denominator) (numerator / denominator) := by
  rcases Nat.eq_zero_or_pos numerator with none | some
  · subst none
    refine ⟨by simp [nearestBits], fun _ => ?_⟩
    rw [Nat.cast_zero, zero_div, ← valueAt_zero]
    exact valueAt_strictMono (Nat.succ_pos _)
  · rw [nearestBits_eq _ _ (Nat.ne_of_gt some) (Nat.ne_of_gt defined)]
    have full := mantissaUnit_le_scaled numerator denominator some
    have least : -1074 ≤ scale numerator denominator := Int.le_max_right _ _
    generalize scale numerator denominator = exponent at *
    have atPlace : (((exponent + 1074).toNat : Nat) : Int) - 1074 = exponent := by omega
    have positive : 0 < denominator * 2 ^ exponent.toNat :=
      Nat.mul_pos defined (Nat.two_pow_pos _)
    refine covers_of_mantissa _ (numerator * 2 ^ (-exponent).toNat
      / (denominator * 2 ^ exponent.toNat)) _ _ ?_
      (Nat.add_le_add_left (le_roundedQuotient _ _) _) ?_
    · rcases Int.lt_or_le (-1074) exponent with above | atLeast
      · exact Or.inl ((Nat.le_div_iff_mul_le positive).mpr (full above))
      · exact Or.inr (by omega)
    · rw [atPlace, scaled_eq numerator denominator exponent defined]
      exact quotient_lt _ _ exponent positive

theorem ofInt_covers (number : Nat) : Covers (ofInt number).toBits.toNat number := by
  have covers := nearestBits_covers number 1 Nat.one_pos
  rw [Nat.cast_one, div_one] at covers
  have same : ofInt number = ofSizeBits false (nearestBits number 1) := by
    unfold ofInt nearest
    rw [Int.natAbs_natCast, decide_eq_false (by omega)]
  rw [same, toBits_ofSizeBits _ covers.size]
  exact covers

/-! ### Rounding -/

private theorem shifted_mantissa (extended : ExtendedMantissa) (count : Nat) :
    (extended >>> count).mantissa = extended.mantissa / 2 ^ count := by
  induction count with
  | zero => exact (Nat.div_one _).symm
  | succ count inductionHypothesis =>
      change (extended >>> count).mantissa / 2 = _
      rw [inductionHypothesis, Nat.div_div_eq_div_mul, Nat.pow_succ]

private theorem mantissa_ofAccuracy (mantissa : Nat) (accuracy : Accuracy) :
    (ExtendedMantissa.ofMantissaAndAccuracy mantissa accuracy).mantissa = mantissa := by
  cases accuracy with
  | exact => rfl
  | inexact ordering => cases ordering <;> rfl

private theorem roundedMantissa_bounds (extended : ExtendedMantissa) :
    extended.mantissa ≤ extended.roundedMantissa ∧
      extended.roundedMantissa ≤ extended.mantissa + 1 := by
  obtain ⟨mantissa, roundBit, stickyBit⟩ := extended
  cases roundBit <;> cases stickyBit <;>
    simp only [ExtendedMantissa.roundedMantissa, ExtendedMantissa.accuracy,
      Accuracy.roundToNearestEven] <;> omega

theorem targetExponent_eq (mantissa : Nat) (exponent : Int) :
    Format.binary64.targetExponent (totalExponent mantissa exponent)
      = max ((mantissa.log2 : Int) + exponent - 52) (-1074) := by
  unfold Format.targetExponent totalExponent
  change max ((mantissa.log2 : Int) + 1 + exponent - 53) (-1074) = _
  omega

private theorem shiftToTargetExponent_fst (mantissa : Nat) (exponent : Int) (accuracy : Accuracy) :
    (shiftToTargetExponent Format.binary64 mantissa exponent accuracy).1.mantissa
      = mantissa / 2 ^ (max ((mantissa.log2 : Int) + exponent - 52) (-1074) - exponent).toNat := by
  unfold shiftToTargetExponent shiftToExponent
  rw [targetExponent_eq, shifted_mantissa, mantissa_ofAccuracy]

private theorem shiftToTargetExponent_snd (mantissa : Nat) (exponent : Int) (accuracy : Accuracy) :
    (shiftToTargetExponent Format.binary64 mantissa exponent accuracy).2
      = exponent
        + (max ((mantissa.log2 : Int) + exponent - 52) (-1074) - exponent).toNat := by
  unfold shiftToTargetExponent shiftToExponent
  rw [targetExponent_eq]

/-- A rounded mantissa, which may have become one place too long, as a size. -/
def carried (mantissa : Nat) (exponent : Int) : UnpackedFloat :=
  let final := shiftToTargetExponent Format.binary64 mantissa exponent .exact
  sized final.1.mantissa final.2

private theorem toNat_pack_carried (place mantissa : Nat) (fits : mantissa ≤ 2 * mantissaUnit)
    (canonical : mantissaUnit ≤ mantissa ∨ place = 0) :
    (UnpackedFloat.pack Format.binary64 (carried mantissa ((place : Int) - 1074))).toNat
      = min (place * mantissaUnit + mantissa) infinityBits := by
  unfold carried
  dsimp only
  rw [shiftToTargetExponent_fst, shiftToTargetExponent_snd]
  rcases Nat.lt_or_eq_of_le fits with within | long
  · have short : mantissa.log2 ≤ 52 := by
      rcases Nat.eq_zero_or_pos mantissa with none | some
      · rw [none]
        decide
      · exact Nat.le_of_lt_succ ((Nat.log2_lt (Nat.ne_of_gt some) (k := 53)).mpr within)
    have stays : (max ((mantissa.log2 : Int) + ((place : Int) - 1074) - 52) (-1074)
        - ((place : Int) - 1074)).toNat = 0 := by omega
    rw [stays, Nat.pow_zero, Nat.div_one, Nat.cast_zero, Int.add_zero]
    exact toNat_pack_sized place mantissa within canonical
  · have log : mantissa.log2 = 53 := by
      rw [long]
      decide
    have moves : (max ((mantissa.log2 : Int) + ((place : Int) - 1074) - 52) (-1074)
        - ((place : Int) - 1074)).toNat = 1 := by omega
    have half : mantissa / 2 ^ 1 = mantissaUnit := by omega
    have next : (place : Int) - 1074 + (1 : Nat) = ((place + 1 : Nat) : Int) - 1074 := by omega
    have carry : (place + 1) * mantissaUnit + mantissaUnit
        = place * mantissaUnit + 2 * mantissaUnit := by
      rw [Nat.add_mul, Nat.one_mul, Nat.two_mul, Nat.add_assoc]
    rw [moves, half, next,
      toNat_pack_sized (place + 1) mantissaUnit (by decide) (Or.inl (Nat.le_refl _)), long, carry]

theorem roundWithAccuracy_eq (mantissa : Nat) (exponent : Int) (accuracy : Accuracy) :
    roundWithAccuracy Format.binary64 .positive mantissa exponent accuracy
      = carried
        (shiftToTargetExponent Format.binary64 mantissa exponent accuracy).1.roundedMantissa
        (shiftToTargetExponent Format.binary64 mantissa exponent accuracy).2 := rfl

/-- Where a mantissa is cut off: far enough to fit, and only as far as full precision. -/
theorem exists_cut (mantissa : Nat) (exponent : Int)
    (enough : mantissaUnit ≤ mantissa ∨ exponent ≤ -1074) :
    ∃ place count : Nat,
      max ((mantissa.log2 : Int) + exponent - 52) (-1074) = (place : Int) - 1074 ∧
      (place : Int) - 1074 = exponent + count ∧
      mantissa / 2 ^ count < 2 * mantissaUnit ∧
      (mantissaUnit ≤ mantissa / 2 ^ count ∨ place = 0) := by
  have long : mantissaUnit ≤ mantissa → 52 ≤ mantissa.log2 := by
    intro full
    exact (Nat.le_log2 (by unfold mantissaUnit at full; omega)).mpr full
  obtain ⟨place, target⟩ : ∃ place : Nat,
      max ((mantissa.log2 : Int) + exponent - 52) (-1074) = (place : Int) - 1074 :=
    ⟨(max ((mantissa.log2 : Int) + exponent - 52) (-1074) + 1074).toNat, by omega⟩
  obtain ⟨count, shift⟩ : ∃ count : Nat, (place : Int) - 1074 = exponent + count :=
    ⟨((place : Int) - 1074 - exponent).toNat, by omega⟩
  have somePower : 0 < 2 ^ count := Nat.two_pow_pos count
  refine ⟨place, count, target, shift, ?_, ?_⟩
  · rw [Nat.div_lt_iff_lt_mul somePower]
    calc mantissa < 2 ^ (mantissa.log2 + 1) := Nat.lt_log2_self
      _ ≤ 2 ^ (53 + count) := Nat.pow_le_pow_right two_pos (by omega)
      _ = 2 * mantissaUnit * 2 ^ count := Nat.pow_add 2 53 count
  · rcases Nat.eq_zero_or_pos place with atLeast | above
    · exact Or.inr atLeast
    · have some : 0 < mantissa := by
        refine Nat.pos_of_ne_zero fun none => ?_
        rw [none] at target
        change max (0 + exponent - 52) (-1074) = _ at target
        unfold mantissaUnit at enough
        omega
      refine Or.inl ((Nat.le_div_iff_mul_le somePower).mpr ?_)
      calc mantissaUnit * 2 ^ count = 2 ^ (52 + count) := (Nat.pow_add 2 52 count).symm
        _ ≤ mantissa * 2 ^ 0 := two_pow_le_mul some (by omega)
        _ = mantissa := Nat.mul_one mantissa

private theorem lt_cut (mantissa count : Nat) (exponent : Int) :
    (mantissa + 1) * (2 : ℚ) ^ exponent
      ≤ ((mantissa / 2 ^ count : Nat) + 1) * (2 : ℚ) ^ (exponent + count) := by
  have kept : mantissa + 1 ≤ (mantissa / 2 ^ count + 1) * 2 ^ count := by
    rw [Nat.mul_comm]
    exact Nat.lt_mul_div_succ mantissa (Nat.two_pow_pos count)
  have keptSize : (mantissa : ℚ) + 1 ≤ ((mantissa / 2 ^ count : Nat) + 1) * 2 ^ count := by
    exact_mod_cast kept
  rw [zpow_add₀ two_ne_zero, zpow_natCast]
  calc ((mantissa : ℚ) + 1) * 2 ^ exponent
      ≤ ((mantissa / 2 ^ count : Nat) + 1) * 2 ^ count * 2 ^ exponent :=
        mul_le_mul_of_nonneg_right keptSize (le_of_lt (zpow_pos two_pos _))
    _ = ((mantissa / 2 ^ count : Nat) + 1) * (2 ^ exponent * 2 ^ count) := by ring

/-- Rounding what is left of a mantissa after a cut covers the value. -/
theorem roundWithAccuracy_covers (mantissa : Nat) (exponent : Int) (accuracy : Accuracy)
    (value : ℚ) (enough : mantissaUnit ≤ mantissa ∨ exponent ≤ -1074)
    (below : value < (mantissa + 1) * (2 : ℚ) ^ exponent) :
    Covers (UnpackedFloat.pack Format.binary64
      (roundWithAccuracy Format.binary64 .positive mantissa exponent accuracy)).toNat value := by
  have bounds := roundedMantissa_bounds
    (shiftToTargetExponent Format.binary64 mantissa exponent accuracy).1
  rw [shiftToTargetExponent_fst] at bounds
  rw [roundWithAccuracy_eq, shiftToTargetExponent_snd]
  generalize (shiftToTargetExponent Format.binary64 mantissa exponent accuracy).1.roundedMantissa
    = rounded at *
  obtain ⟨place, count, target, shift, fits, canonical⟩ := exists_cut mantissa exponent enough
  have counted : ((place : Int) - 1074 - exponent).toNat = count := by omega
  rw [target, counted] at bounds ⊢
  rw [← shift, toNat_pack_carried place rounded (by omega) (by omega)]
  refine covers_of_mantissa place (mantissa / 2 ^ count) _ value canonical (by omega) ?_
  rw [shift]
  exact lt_of_lt_of_le below (lt_cut mantissa count exponent)

private theorem decreaseExponent_value (mantissa : Nat) (exponent target : Int) :
    ((decreaseExponent mantissa exponent target).1 : ℚ)
        * 2 ^ (decreaseExponent mantissa exponent target).2
      = mantissa * (2 : ℚ) ^ exponent := by
  unfold decreaseExponent
  dsimp only
  generalize (exponent - target).toNat = count
  rw [Nat.shiftLeft_eq, Nat.cast_mul, Nat.cast_pow, Nat.cast_two, mul_assoc, ← zpow_natCast,
    ← zpow_add₀ two_ne_zero]
  congr 2
  omega

private theorem decreaseExponent_snd (mantissa : Nat) (exponent target : Int)
    (lower : target ≤ exponent) :
    (decreaseExponent mantissa exponent target).2 = target := by
  unfold decreaseExponent
  dsimp only
  omega

private theorem decreaseExponent_pos (mantissa : Nat) (exponent target : Int)
    (some : 0 < mantissa) :
    0 < (decreaseExponent mantissa exponent target).1 :=
  Nat.shiftLeft_pos_iff.mpr some

private theorem round_covers (mantissa : Nat) (exponent : Int) (some : 0 < mantissa) :
    Covers (UnpackedFloat.pack Format.binary64
      (UnpackedFloat.round Format.binary64 .positive mantissa exponent)).toNat
      (mantissa * (2 : ℚ) ^ exponent) := by
  unfold UnpackedFloat.round
  dsimp only
  rw [targetExponent_eq]
  have same := decreaseExponent_value mantissa exponent
    (max ((mantissa.log2 : Int) + exponent - 52) (-1074))
  refine roundWithAccuracy_covers _ _ _ _ ?_ ?_
  · unfold decreaseExponent
    dsimp only
    obtain ⟨count, counted⟩ : ∃ count : Nat,
        (exponent - max ((mantissa.log2 : Int) + exponent - 52) (-1074)).toNat = count := ⟨_, rfl⟩
    rw [counted, Nat.shiftLeft_eq]
    rcases Int.lt_or_le (-1074) (exponent - count) with above | atLeast
    · exact Or.inl (show 2 ^ 52 ≤ _ from two_pow_le_mul some (by omega))
    · exact Or.inr atLeast
  · rw [← same]
    exact mul_lt_mul_of_pos_right (lt_add_one _) (zpow_pos two_pos _)

private theorem mantissaUnit_le_quotient (mantissa other count : Nat) (some : 0 < mantissa)
    (otherSome : 0 < other) (long : 53 + other.log2 ≤ mantissa.log2 + count) :
    mantissaUnit ≤ mantissa * 2 ^ count / other := by
  refine (Nat.le_div_iff_mul_le otherSome).mpr ?_
  calc mantissaUnit * other
      ≤ 2 ^ 52 * 2 ^ (other.log2 + 1) := Nat.mul_le_mul_left _ (Nat.le_of_lt Nat.lt_log2_self)
    _ = 2 ^ (52 + (other.log2 + 1)) := (Nat.pow_add _ _ _).symm
    _ ≤ mantissa * 2 ^ count := two_pow_le_mul some (by omega)

private theorem normalize_natCast (mantissa : Nat) (exponent : Int) (sign : Sign)
    (some : 0 < mantissa) :
    UnpackedFloat.normalize Format.binary64 mantissa exponent sign
      = UnpackedFloat.round Format.binary64 .positive mantissa exponent := by
  unfold UnpackedFloat.normalize
  rw [Int.compare_eq_gt.mpr (by omega)]
  rfl

namespace Reads

variable {left right : UnpackedFloat} {value other : ℚ}

private theorem covers (reads : Reads left value) :
    Covers (UnpackedFloat.pack Format.binary64 left).toNat value := by
  cases reads with
  | zero =>
      refine ⟨Nat.zero_le _, fun _ => ?_⟩
      rw [← valueAt_zero]
      exact valueAt_strictMono (Nat.succ_pos _)
  | some place mantissa positive fits canonical =>
      have packed := toNat_pack_sized place mantissa fits canonical
      rw [sized, dif_neg (Nat.ne_of_gt positive)] at packed
      rw [packed]
      refine covers_of_mantissa place mantissa _ _ canonical (Nat.le_refl _) ?_
      exact mul_lt_mul_of_pos_right (lt_add_one _) (zpow_pos two_pos _)

private theorem mul_covers (reads : Reads left value) (otherReads : Reads right other) :
    Covers (UnpackedFloat.pack Format.binary64
      (UnpackedFloat.mul Format.binary64 left right)).toNat (value * other) := by
  cases reads with
  | zero =>
      rw [zero_mul]
      cases otherReads <;> exact zero.covers
  | some place mantissa positive _ canonical =>
      cases otherReads with
      | zero =>
          rw [mul_zero]
          exact zero.covers
      | some otherPlace otherMantissa otherPositive _ otherCanonical =>
          refine roundWithAccuracy_covers (mantissa * otherMantissa)
            (((place : Int) - 1074) + ((otherPlace : Int) - 1074)) .exact _ ?_ ?_
          · rcases canonical with full | least
            · exact Or.inl (Nat.le_trans full (Nat.le_mul_of_pos_right _ otherPositive))
            · rcases otherCanonical with full | otherLeast
              · exact Or.inl (Nat.le_trans full (Nat.le_mul_of_pos_left _ positive))
              · exact Or.inr (by omega)
          · calc (mantissa : ℚ) * 2 ^ ((place : Int) - 1074)
                  * (otherMantissa * 2 ^ ((otherPlace : Int) - 1074))
                = (mantissa * otherMantissa : Nat)
                    * 2 ^ (((place : Int) - 1074) + ((otherPlace : Int) - 1074)) := by
                  rw [zpow_add₀ two_ne_zero, Nat.cast_mul]
                  ring
              _ < ((mantissa * otherMantissa : Nat) + 1)
                    * 2 ^ (((place : Int) - 1074) + ((otherPlace : Int) - 1074)) :=
                  mul_lt_mul_of_pos_right (lt_add_one _) (zpow_pos two_pos _)

private theorem add_covers (reads : Reads left value) (otherReads : Reads right other) :
    Covers (UnpackedFloat.pack Format.binary64
      (UnpackedFloat.add Format.binary64 left right)).toNat (value + other) := by
  cases reads with
  | zero =>
      rw [zero_add]
      cases otherReads with
      | zero => exact zero.covers
      | some place mantissa positive fits canonical =>
          exact (some place mantissa positive fits canonical).covers
  | some place mantissa positive fits canonical =>
      cases otherReads with
      | zero =>
          rw [add_zero]
          exact (some place mantissa positive fits canonical).covers
      | some otherPlace otherMantissa otherPositive _ _ =>
          obtain ⟨lower, isLower⟩ : ∃ lower : Int,
              lower = min ((place : Int) - 1074) ((otherPlace : Int) - 1074) := ⟨_, rfl⟩
          have first := decreaseExponent_value mantissa ((place : Int) - 1074) lower
          have second := decreaseExponent_value otherMantissa ((otherPlace : Int) - 1074) lower
          rw [decreaseExponent_snd _ _ _ (by omega)] at first second
          have sum : UnpackedFloat.add Format.binary64
              (.finite .positive mantissa ((place : Int) - 1074) positive)
              (.finite .positive otherMantissa ((otherPlace : Int) - 1074) otherPositive)
              = UnpackedFloat.normalize Format.binary64
                ((decreaseExponent mantissa ((place : Int) - 1074) lower).1
                  + (decreaseExponent otherMantissa ((otherPlace : Int) - 1074) lower).1 : Nat)
                lower .positive := by
            rw [isLower]
            rfl
          rw [sum, normalize_natCast _ _ _
            (Nat.add_pos_left (decreaseExponent_pos _ _ _ positive) _), ← first, ← second,
            ← add_mul, ← Nat.cast_add]
          exact round_covers _ _ (Nat.add_pos_left (decreaseExponent_pos _ _ _ positive) _)

private theorem div_covers (reads : Reads left value) (otherReads : Reads right other)
    (defined : 0 < other) :
    Covers (UnpackedFloat.pack Format.binary64
      (UnpackedFloat.div Format.binary64 left right)).toNat (value / other) := by
  cases otherReads with
  | zero => exact absurd defined (lt_irrefl 0)
  | some otherPlace otherMantissa otherPositive _ _ =>
      cases reads with
      | zero =>
          rw [zero_div]
          exact zero.covers
      | some place mantissa positive _ _ =>
          obtain ⟨exponent, isExponent⟩ : ∃ exponent : Int,
              exponent = min ((place : Int) - 1074 - ((otherPlace : Int) - 1074))
                (max ((mantissa.log2 : Int) + 1 + ((place : Int) - 1074)
                  - ((otherMantissa.log2 : Int) + 1 + ((otherPlace : Int) - 1074)) - 53) (-1074)) :=
            ⟨_, rfl⟩
          obtain ⟨count, counted⟩ : ∃ count : Nat,
              count = ((place : Int) - 1074 - ((otherPlace : Int) - 1074) - exponent).toNat :=
            ⟨_, rfl⟩
          have quotient : UnpackedFloat.div Format.binary64
              (.finite .positive mantissa ((place : Int) - 1074) positive)
              (.finite .positive otherMantissa ((otherPlace : Int) - 1074) otherPositive)
              = roundWithAccuracy Format.binary64 .positive
                ((mantissa <<< count) / otherMantissa) exponent
                (accuracyOfFraction ((mantissa <<< count) % otherMantissa) otherMantissa) := by
            rw [counted, isExponent]
            rfl
          rw [quotient, Nat.shiftLeft_eq]
          refine roundWithAccuracy_covers _ _ _ _ ?_ ?_
          · rcases Int.lt_or_le (-1074) exponent with above | least
            · exact Or.inl (mantissaUnit_le_quotient _ _ count positive otherPositive (by omega))
            · exact Or.inr least
          · have shift : (place : Int) - 1074 = exponent + count + ((otherPlace : Int) - 1074) := by
              omega
            have someMantissa : (otherMantissa : ℚ) ≠ 0 := by
              exact_mod_cast Nat.ne_of_gt otherPositive
            have somePower : (2 : ℚ) ^ ((otherPlace : Int) - 1074) ≠ 0 := zpow_ne_zero _ two_ne_zero
            calc (mantissa : ℚ) * 2 ^ ((place : Int) - 1074)
                  / (otherMantissa * 2 ^ ((otherPlace : Int) - 1074))
                = ((mantissa * 2 ^ count : Nat) : ℚ) / otherMantissa * 2 ^ exponent := by
                  rw [shift, zpow_add₀ two_ne_zero, zpow_add₀ two_ne_zero, zpow_natCast]
                  push_cast
                  field_simp
              _ < _ := quotient_lt _ _ exponent otherPositive

private theorem add_infinite (reads : Reads left value) :
    UnpackedFloat.add Format.binary64 left (.infinity .positive) = .infinity .positive := by
  cases reads <;> rfl

private theorem infinite_add (reads : Reads right value) :
    UnpackedFloat.add Format.binary64 (.infinity .positive) right = .infinity .positive := by
  cases reads <;> rfl

private theorem infinite_mul (reads : Reads right value) (some : 0 < value) :
    UnpackedFloat.mul Format.binary64 (.infinity .positive) right = .infinity .positive := by
  cases reads with
  | zero => exact absurd some (lt_irrefl 0)
  | some place mantissa positive _ _ => rfl

private theorem infinite_div (reads : Reads right value) (some : 0 < value) :
    UnpackedFloat.div Format.binary64 (.infinity .positive) right = .infinity .positive := by
  cases reads with
  | zero => exact absurd some (lt_irrefl 0)
  | some place mantissa positive _ _ => rfl

end Reads

/-! ### Operations on numbers -/

variable {left right : Float}

private theorem reads_of_finite (number : Float) (finite : number.toBits.toNat < infinityBits) :
    Reads number.toModel.unpack (valueAt number.toBits.toNat) := by
  rw [unpack_of_finite number finite]
  exact reads_binaryAt _

private theorem unpack_of_infinite (number : Float)
    (infinite : number.toBits.toNat = infinityBits) :
    number.toModel.unpack = .infinity .positive :=
  unpack_infinity number.toModel.toBits.toBitVec infinite

private theorem toBits_add (left right : Float) :
    (left + right).toBits.toNat = (UnpackedFloat.pack Format.binary64
      (UnpackedFloat.add Format.binary64 left.toModel.unpack right.toModel.unpack)).toNat := rfl

private theorem toBits_mul (left right : Float) :
    (left * right).toBits.toNat = (UnpackedFloat.pack Format.binary64
      (UnpackedFloat.mul Format.binary64 left.toModel.unpack right.toModel.unpack)).toNat := rfl

private theorem toBits_div (left right : Float) :
    (left / right).toBits.toNat = (UnpackedFloat.pack Format.binary64
      (UnpackedFloat.div Format.binary64 left.toModel.unpack right.toModel.unpack)).toNat := rfl

private theorem infinite_result (value : ℚ) (claim : Prop) :
    Covers (UnpackedFloat.pack Format.binary64 (.infinity .positive)).toNat value ∧
      ((UnpackedFloat.pack Format.binary64 (.infinity .positive)).toNat < infinityBits → claim) :=
  ⟨covers_infinity value, fun finite => absurd finite (Nat.lt_irrefl infinityBits)⟩

theorem add_covers (sizeLeft : left.toBits.toNat ≤ infinityBits)
    (sizeRight : right.toBits.toNat ≤ infinityBits) :
    Covers (left + right).toBits.toNat
        (valueAt left.toBits.toNat + valueAt right.toBits.toNat) ∧
      ((left + right).toBits.toNat < infinityBits →
        left.toBits.toNat < infinityBits ∧ right.toBits.toNat < infinityBits) := by
  rw [toBits_add]
  rcases Nat.lt_or_eq_of_le sizeLeft with finiteLeft | infiniteLeft
  · have readsLeft := reads_of_finite left finiteLeft
    rcases Nat.lt_or_eq_of_le sizeRight with finiteRight | infiniteRight
    · exact ⟨readsLeft.add_covers (reads_of_finite right finiteRight),
        fun _ => ⟨finiteLeft, finiteRight⟩⟩
    · rw [unpack_of_infinite right infiniteRight, readsLeft.add_infinite]
      exact infinite_result _ _
  · rw [unpack_of_infinite left infiniteLeft]
    rcases Nat.lt_or_eq_of_le sizeRight with finiteRight | infiniteRight
    · rw [(reads_of_finite right finiteRight).infinite_add]
      exact infinite_result _ _
    · rw [unpack_of_infinite right infiniteRight]
      exact infinite_result _ _

theorem mul_covers (sizeLeft : left.toBits.toNat ≤ infinityBits)
    (finiteRight : right.toBits.toNat < infinityBits) (some : 0 < right.toBits.toNat) :
    Covers (left * right).toBits.toNat
        (valueAt left.toBits.toNat * valueAt right.toBits.toNat) ∧
      ((left * right).toBits.toNat < infinityBits → left.toBits.toNat < infinityBits) := by
  have readsRight := reads_of_finite right finiteRight
  rw [toBits_mul]
  rcases Nat.lt_or_eq_of_le sizeLeft with finiteLeft | infiniteLeft
  · exact ⟨(reads_of_finite left finiteLeft).mul_covers readsRight, fun _ => finiteLeft⟩
  · rw [unpack_of_infinite left infiniteLeft, readsRight.infinite_mul (valueAt_pos some)]
    exact infinite_result _ _

theorem div_covers (sizeLeft : left.toBits.toNat ≤ infinityBits)
    (finiteRight : right.toBits.toNat < infinityBits) (some : 0 < right.toBits.toNat) :
    Covers (left / right).toBits.toNat
        (valueAt left.toBits.toNat / valueAt right.toBits.toNat) ∧
      ((left / right).toBits.toNat < infinityBits → left.toBits.toNat < infinityBits) := by
  have readsRight := reads_of_finite right finiteRight
  rw [toBits_div]
  rcases Nat.lt_or_eq_of_le sizeLeft with finiteLeft | infiniteLeft
  · exact ⟨(reads_of_finite left finiteLeft).div_covers readsRight (valueAt_pos some),
      fun _ => finiteLeft⟩
  · rw [unpack_of_infinite left infiniteLeft, readsRight.infinite_div (valueAt_pos some)]
    exact infinite_result _ _

end RemoteQuery.Decimal
