import Mathlib.Algebra.Order.Ring.Abs
import RemoteQuery.Proofs.Decimal.Rounding
set_option autoImplicit false

/-! The number nearest to a fraction.  A fraction is rounded in units of its last place.
Every finite number is a whole number of these units or too small to be nearer, so it is
enough that the mantissa is the nearest whole number, and the even one of two. -/

namespace RemoteQuery.Decimal

def valueOf (number : Float) : ℚ :=
  if isNegative number then -(binaryOf number).value else (binaryOf number).value

/-- No finite number is nearer to a value, and of two that are as near it is the one with the
even mantissa. -/
structure IsNearest (exact : ℚ) (number : Float) : Prop where
  finite : isFinite number = true
  least : ∀ other, isFinite other = true →
    |valueOf number - exact| ≤ |valueOf other - exact|
  even : ∀ other, isFinite other = true → valueOf other ≠ valueOf number →
    |valueOf other - exact| = |valueOf number - exact| → (binaryOf number).mantissa % 2 = 0

/-! ### The nearest whole number -/

/-- A whole number is nearest to a value, and if it is halfway it is even. -/
structure Rounds (exact : ℚ) (whole : Nat) : Prop where
  near : |(whole : ℚ) - exact| ≤ 1 / 2
  even : |(whole : ℚ) - exact| = 1 / 2 → whole % 2 = 0

theorem Rounds.of_near {exact : ℚ} {whole : Nat} (near : |(whole : ℚ) - exact| < 1 / 2) :
    Rounds exact whole :=
  ⟨near.le, fun half => absurd half near.ne⟩

theorem Rounds.of_even {exact : ℚ} {whole : Nat} (half : |(whole : ℚ) - exact| = 1 / 2)
    (even : whole % 2 = 0) : Rounds exact whole :=
  ⟨half.le, fun _ => even⟩

theorem rounds_parts (whole : Nat) {part : ℚ} (nonneg : 0 ≤ part) (proper : part < 1) :
    (part < 1 / 2 → Rounds (whole + part) whole) ∧
    (1 / 2 < part → Rounds (whole + part) (whole + 1)) ∧
    (part = 1 / 2 → Rounds (whole + part) (whole + whole % 2)) := by
  have halfPos : (0 : ℚ) < 1 / 2 := by norm_num
  refine ⟨fun small => .of_near ?_, fun large => .of_near ?_, fun half => ?_⟩
  · rw [sub_add_cancel_left, abs_neg, abs_of_nonneg nonneg]
    exact small
  · push_cast
    rw [add_sub_add_left_eq_sub, abs_of_pos (sub_pos.mpr proper)]
    linarith
  · rw [half]
    rcases Nat.mod_two_eq_zero_or_one whole with even | odd
    · rw [even]
      refine .of_even ?_ (by omega)
      rw [Nat.add_zero, sub_add_cancel_left, abs_neg, abs_of_pos halfPos]
    · rw [odd]
      refine .of_even ?_ (by omega)
      push_cast
      rw [add_sub_add_left_eq_sub, show (1 : ℚ) - 1 / 2 = 1 / 2 by norm_num,
        abs_of_pos halfPos]

private theorem roundedQuotient_rounds (numerator denominator : Nat) (defined : 0 < denominator) :
    Rounds ((numerator : ℚ) / denominator) (roundedQuotient numerator denominator) := by
  have positive : (0 : ℚ) < denominator := by exact_mod_cast defined
  have whole : (numerator : ℚ) = denominator * (numerator / denominator : Nat)
      + (numerator % denominator : Nat) := by
    exact_mod_cast (Nat.div_add_mod numerator denominator).symm
  have parts : (numerator : ℚ) / denominator
      = (numerator / denominator : Nat) + ((numerator % denominator : Nat) : ℚ) / denominator := by
    rw [div_eq_iff positive.ne', add_mul, div_mul_cancel₀ _ positive.ne']
    linarith
  have nonneg : (0 : ℚ) ≤ ((numerator % denominator : Nat) : ℚ) / denominator :=
    div_nonneg (Nat.cast_nonneg _) positive.le
  have proper : ((numerator % denominator : Nat) : ℚ) / denominator < 1 := by
    rw [div_lt_iff₀ positive, one_mul]
    exact_mod_cast Nat.mod_lt numerator defined
  obtain ⟨down, up, halfway⟩ := rounds_parts (numerator / denominator) nonneg proper
  rw [parts]
  unfold roundedQuotient
  dsimp only
  split
  · rename_i short
    apply down
    have cast : 2 * ((numerator % denominator : Nat) : ℚ) < denominator := by exact_mod_cast short
    rw [div_lt_iff₀ positive]
    linarith
  · rename_i atLeast
    split
    · rename_i long
      apply up
      have cast : (denominator : ℚ) < 2 * (numerator % denominator : Nat) := by exact_mod_cast long
      rw [lt_div_iff₀ positive]
      linarith
    · rename_i atMost
      apply halfway
      have cast : 2 * ((numerator % denominator : Nat) : ℚ) = denominator := by
        exact_mod_cast Nat.le_antisymm (Nat.le_of_not_lt atMost) (Nat.le_of_not_lt atLeast)
      rw [div_eq_iff positive.ne']
      linarith

/-- No whole number is nearer, and another one that is as near leaves a half. -/
theorem Rounds.least {exact : ℚ} {whole : Nat} (rounds : Rounds exact whole) (other : Int) :
    |(whole : ℚ) - exact| ≤ |(other : ℚ) - exact| ∧
      (other ≠ whole → |(other : ℚ) - exact| = |(whole : ℚ) - exact| → whole % 2 = 0) := by
  rcases eq_or_ne other whole with same | apart
  · rw [same, Int.cast_natCast]
    exact ⟨le_refl _, fun different => absurd rfl different⟩
  · have far : (1 : ℚ) ≤ |(other : ℚ) - whole| := by
      exact_mod_cast Int.one_le_abs (sub_ne_zero.mpr apart)
    have around := abs_sub_le (other : ℚ) exact whole
    rw [abs_sub_comm exact] at around
    have near := rounds.near
    refine ⟨by linarith, fun _ tie => rounds.even ?_⟩
    linarith

/-! ### Units of the last place -/

private theorem valueAt_rounded (place mantissa : Nat) (fits : mantissa ≤ 2 * mantissaUnit)
    (canonical : mantissaUnit ≤ mantissa ∨ place = 0) :
    valueAt (place * mantissaUnit + mantissa) = mantissa * (2 : ℚ) ^ ((place : Int) - 1074) ∧
      (mantissa % 2 = 0 → (binaryAt (place * mantissaUnit + mantissa)).mantissa % 2 = 0) := by
  rcases Nat.lt_or_eq_of_le fits with within | carried
  · refine ⟨valueAt_packed place mantissa within canonical, fun even => ?_⟩
    rw [binaryAt_packed place mantissa within canonical]
    exact even
  · have bits : place * mantissaUnit + mantissa = (place + 1) * mantissaUnit + mantissaUnit := by
      rw [carried, Nat.add_mul, Nat.one_mul, Nat.two_mul, Nat.add_assoc]
    have next : ((place + 1 : Nat) : Int) - 1074 = ((place : Int) - 1074) + 1 := by omega
    have fitsNext : mantissaUnit < 2 * mantissaUnit := by decide
    rw [bits, valueAt_packed (place + 1) mantissaUnit fitsNext (Or.inl (Nat.le_refl _)),
      binaryAt_packed (place + 1) mantissaUnit fitsNext (Or.inl (Nat.le_refl _)), next,
      two_zpow_succ, carried]
    have evenUnit : mantissaUnit % 2 = 0 := by decide
    refine ⟨?_, fun _ => evenUnit⟩
    push_cast
    ring

/-- A size is a whole number of units, or it is below every mantissa of full precision. -/
theorem valueAt_units (bits place : Nat) :
    (∃ count : Nat, valueAt bits = count * (2 : ℚ) ^ ((place : Int) - 1074)) ∨
      (0 < place ∧ valueAt bits < mantissaUnit * (2 : ℚ) ^ ((place : Int) - 1074)) := by
  obtain ⟨own, mantissa, packed, fits, canonical⟩ := binaryAt_unpacked bits
  rw [packed, valueAt_packed own mantissa fits canonical]
  rcases Nat.lt_or_ge own place with below | above
  · refine Or.inr ⟨by omega, ?_⟩
    have unit : (0 : ℚ) < 2 ^ ((own : Int) - 1074) := zpow_pos two_pos _
    have cast : (mantissa : ℚ) < 2 * mantissaUnit := by exact_mod_cast fits
    calc (mantissa : ℚ) * 2 ^ ((own : Int) - 1074)
        < 2 * mantissaUnit * 2 ^ ((own : Int) - 1074) := mul_lt_mul_of_pos_right cast unit
      _ = mantissaUnit * 2 ^ ((own : Int) - 1074 + 1) := by
        rw [two_zpow_succ]
        ring
      _ ≤ mantissaUnit * 2 ^ ((place : Int) - 1074) :=
        mul_le_mul_of_nonneg_left (zpow_le_zpow_right₀ one_le_two (by omega)) (Nat.cast_nonneg _)
  · obtain ⟨further, rfl⟩ := Nat.exists_eq_add_of_le above
    refine Or.inl ⟨mantissa * 2 ^ further, ?_⟩
    rw [show ((place + further : Nat) : Int) - 1074 = ((place : Int) - 1074) + further by omega,
      zpow_add₀ two_ne_zero, zpow_natCast]
    push_cast
    ring

private theorem valueOf_units (number : Float) (place : Nat) :
    (∃ count : Int, valueOf number = count * (2 : ℚ) ^ ((place : Int) - 1074)) ∨
      (0 < place ∧ valueOf number < mantissaUnit * (2 : ℚ) ^ ((place : Int) - 1074)) := by
  have size : (binaryOf number).value = valueAt (sizeBits number) := rfl
  rw [valueOf, size]
  rcases valueAt_units (sizeBits number) place with ⟨count, units⟩ | ⟨normal, small⟩
  · rw [units]
    split
    · exact Or.inl ⟨-count, by push_cast; ring⟩
    · exact Or.inl ⟨count, by push_cast; ring⟩
  · refine Or.inr ⟨normal, ?_⟩
    have nonneg := valueAt_nonneg (sizeBits number)
    split <;> linarith

private theorem sizeBits_ofSizeBits {bits : Nat} (size : bits ≤ infinityBits) :
    sizeBits (ofSizeBits false bits) = bits := by
  rw [sizeBits, toBits_ofSizeBits bits size]
  unfold infinityBits mantissaUnit halfWord at *
  omega

private theorem valueOf_ofSizeBits {bits : Nat} (size : bits ≤ infinityBits) :
    valueOf (ofSizeBits false bits) = valueAt bits := by
  have positive : isNegative (ofSizeBits false bits) = false := by
    rw [isNegative, toBits_ofSizeBits bits size, decide_eq_false]
    unfold infinityBits mantissaUnit halfWord at *
    omega
  rw [valueOf, positive, binaryOf_eq, sizeBits_ofSizeBits size]
  rfl

/-- What is not a whole number of units is further away than the least mantissa of full
precision, so a rounded mantissa is the nearest of all. -/
theorem Rounds.least_of_units {exact unit value : ℚ} {mantissa place : Nat}
    (rounds : Rounds exact mantissa) (positive : 0 < unit)
    (canonical : (mantissaUnit : ℚ) ≤ exact ∨ place = 0)
    (units : (∃ count : Int, value = count * unit) ∨ (0 < place ∧ value < mantissaUnit * unit)) :
    |mantissa * unit - exact * unit| ≤ |value - exact * unit| ∧
      (value ≠ mantissa * unit → |value - exact * unit| = |mantissa * unit - exact * unit| →
        mantissa % 2 = 0) := by
  have distance (count : ℚ) : |count * unit - exact * unit| = |count - exact| * unit := by
    rw [← sub_mul, abs_mul, abs_of_pos positive]
  rcases units with ⟨count, rfl⟩ | ⟨normal, small⟩
  · obtain ⟨least, even⟩ := rounds.least count
    rw [distance, distance]
    refine ⟨mul_le_mul_of_nonneg_right least positive.le, fun apart tie => ?_⟩
    refine even (fun same => apart ?_) (mul_right_cancel₀ positive.ne' tie)
    rw [same, Int.cast_natCast]
  · have long : (mantissaUnit : ℚ) ≤ exact := canonical.resolve_right (Nat.ne_of_gt normal)
    have least := (rounds.least mantissaUnit).1
    rw [Int.cast_natCast, abs_sub_comm (mantissaUnit : ℚ), abs_of_nonneg (sub_nonneg.mpr long)]
      at least
    have further : (exact - mantissaUnit) * unit < |value - exact * unit| := by
      have behind := neg_le_abs (value - exact * unit)
      linarith
    have within := mul_le_mul_of_nonneg_right least positive.le
    rw [distance]
    exact ⟨(within.trans_lt further).le,
      fun _ tie => absurd tie (within.trans_lt further).ne'⟩

theorem isNearest_packed {place mantissa : Nat} {exact : ℚ} (rounds : Rounds exact mantissa)
    (fits : exact < 2 * mantissaUnit) (canonical : (mantissaUnit : ℚ) ≤ exact ∨ place = 0)
    (finite : place * mantissaUnit + mantissa < infinityBits) :
    IsNearest (exact * (2 : ℚ) ^ ((place : Int) - 1074))
      (ofSizeBits false (place * mantissaUnit + mantissa)) := by
  have near := abs_le.mp rounds.near
  have fitsMantissa : mantissa ≤ 2 * mantissaUnit := by
    have below : (mantissa : ℚ) < (2 * mantissaUnit : Nat) + 1 := by
      push_cast
      linarith
    exact Nat.lt_succ_iff.mp (by exact_mod_cast below)
  have full : mantissaUnit ≤ mantissa ∨ place = 0 := by
    refine canonical.imp_left fun long => ?_
    have above : (mantissaUnit : ℚ) < mantissa + 1 := by linarith
    exact Nat.lt_succ_iff.mp (by exact_mod_cast above)
  obtain ⟨value, parity⟩ := valueAt_rounded place mantissa fitsMantissa full
  have unit : (0 : ℚ) < 2 ^ ((place : Int) - 1074) := zpow_pos two_pos _
  have size := Nat.le_of_lt finite
  have least (other : Float) := rounds.least_of_units unit canonical (valueOf_units other place)
  rw [← value, ← valueOf_ofSizeBits size] at least
  refine ⟨?_, fun other _ => (least other).1, fun other _ apart tie => ?_⟩
  · rw [isFinite, sizeBits_ofSizeBits size]
    exact decide_eq_true finite
  · rw [binaryOf_eq, sizeBits_ofSizeBits size]
    exact parity ((least other).2 apart tie)

/-! ### Fractions -/

theorem lt_scaled {numerator denominator : Nat} (defined : 0 < denominator) {exponent : Int}
    (reaches : (Nat.log2 numerator : Int) - (Nat.log2 denominator : Int) - 52 ≤ exponent) :
    numerator * 2 ^ (-exponent).toNat
      < 2 * mantissaUnit * (denominator * 2 ^ exponent.toNat) := by
  have most : 2 ^ denominator.log2 ≤ denominator := Nat.log2_self_le (Nat.ne_of_gt defined)
  calc numerator * 2 ^ (-exponent).toNat
      < 2 ^ (numerator.log2 + 1) * 2 ^ (-exponent).toNat :=
        Nat.mul_lt_mul_of_pos_right Nat.lt_log2_self (Nat.two_pow_pos _)
    _ = 2 ^ (numerator.log2 + 1 + (-exponent).toNat) := (Nat.pow_add _ _ _).symm
    _ ≤ 2 ^ (53 + (denominator.log2 + exponent.toNat)) :=
        Nat.pow_le_pow_right two_pos (by omega)
    _ = 2 * mantissaUnit * (2 ^ denominator.log2 * 2 ^ exponent.toNat) := by
        rw [Nat.pow_add, Nat.pow_add]
        rfl
    _ ≤ 2 * mantissaUnit * (denominator * 2 ^ exponent.toNat) :=
        Nat.mul_le_mul_left _ (Nat.mul_le_mul_right _ most)

theorem scaled_before (numerator denominator : Nat) (exponent : Int)
    (short : numerator * 2 ^ (-exponent).toNat
      < mantissaUnit * (denominator * 2 ^ exponent.toNat)) :
    numerator * 2 ^ (-(exponent - 1)).toNat
      < 2 * mantissaUnit * (denominator * 2 ^ (exponent - 1).toNat) := by
  rcases Int.lt_or_le 0 exponent with positive | nonpositive
  · have up : exponent.toNat = (exponent - 1).toNat + 1 := by omega
    have down : (-exponent).toNat = (-(exponent - 1)).toNat := by omega
    rw [up, down, Nat.pow_succ] at short
    linarith
  · have up : exponent.toNat = (exponent - 1).toNat := by omega
    have down : (-(exponent - 1)).toNat = (-exponent).toNat + 1 := by omega
    rw [up] at short
    rw [down, Nat.pow_succ]
    linarith

/-- At its scale a fraction has no more than a mantissa of full precision. -/
theorem scaled_lt (numerator denominator : Nat) (defined : 0 < denominator) :
    numerator * 2 ^ (-scale numerator denominator).toNat
      < 2 * mantissaUnit * (denominator * 2 ^ (scale numerator denominator).toNat) := by
  unfold scale
  dsimp only
  generalize guessed : (Nat.log2 numerator : Int) - (Nat.log2 denominator : Int) - 52 = guess
  split
  · rename_i short
    rcases Int.lt_or_le (guess - 1) (-1074) with below | within
    · exact lt_scaled defined (by omega)
    · rw [max_eq_left within]
      exact scaled_before numerator denominator guess short
  · exact lt_scaled defined (by omega)

private theorem isNearest_zero : IsNearest 0 (ofSizeBits false 0) := by
  have rounds : Rounds 0 0 := .of_near (by norm_num)
  have near := @isNearest_packed 0 0 0 rounds (by norm_num [mantissaUnit]) (Or.inr rfl)
    (by decide)
  rw [zero_mul] at near
  exact near

/-- A fraction that is not beyond the finite numbers becomes the nearest one. -/
theorem nearest_isNearest (numerator denominator : Nat) (defined : 0 < denominator)
    (finite : nearestBits numerator denominator < infinityBits) :
    IsNearest ((numerator : ℚ) / denominator) (nearest false numerator denominator) := by
  rcases Nat.eq_zero_or_pos numerator with none | some
  · subst none
    rw [Nat.cast_zero, zero_div]
    exact isNearest_zero
  · have short := scaled_lt numerator denominator defined
    have long := mantissaUnit_le_scaled numerator denominator some
    have least : -1074 ≤ scale numerator denominator := Int.le_max_right _ _
    rw [nearest]
    rw [nearestBits_eq _ _ (Nat.ne_of_gt some) (Nat.ne_of_gt defined)] at finite ⊢
    generalize scale numerator denominator = exponent at *
    rw [Nat.min_eq_left (by omega), scaled_eq numerator denominator exponent defined]
    have positive : 0 < denominator * 2 ^ exponent.toNat :=
      Nat.mul_pos defined (Nat.two_pow_pos _)
    generalize numerator * 2 ^ (-exponent).toNat = top at *
    generalize denominator * 2 ^ exponent.toNat = bottom at *
    have positiveCast : (0 : ℚ) < bottom := by exact_mod_cast positive
    have fits : (top : ℚ) / bottom < 2 * mantissaUnit := by
      rw [div_lt_iff₀ positiveCast]
      exact_mod_cast short
    have canonical : (mantissaUnit : ℚ) ≤ top / bottom ∨ (exponent + 1074).toNat = 0 := by
      rcases Int.lt_or_le (-1074) exponent with above | atLeast
      · rw [le_div_iff₀ positiveCast]
        exact Or.inl (by exact_mod_cast long above)
      · exact Or.inr (by omega)
    have near := isNearest_packed (roundedQuotient_rounds top bottom positive) fits canonical
      (by omega)
    rw [show (((exponent + 1074).toNat : Nat) : Int) - 1074 = exponent by omega] at near
    exact near

private theorem roundedQuotient_le (numerator denominator : Nat) :
    roundedQuotient numerator denominator ≤ numerator / denominator + 1 := by
  unfold roundedQuotient
  dsimp only
  split
  · exact Nat.le_succ _
  · split <;> omega

private theorem scale_natCast_le (number : Nat) (small : number.log2 < 1023) :
    scale number 1 ≤ 970 := by
  have one : Nat.log2 1 = 0 := by decide
  unfold scale
  dsimp only
  rw [one]
  split <;> omega

theorem nearestBits_natCast_lt (number : Nat) (small : number.log2 < 1023) :
    nearestBits number 1 < infinityBits := by
  rcases Nat.eq_zero_or_pos number with none | some
  · subst none
    decide
  · have fits := scaled_lt number 1 Nat.one_pos
    have low := scale_natCast_le number small
    rw [nearestBits_eq _ _ (Nat.ne_of_gt some) Nat.one_ne_zero]
    generalize scale number 1 = exponent at *
    generalize number * 2 ^ (-exponent).toNat = top at *
    generalize 1 * 2 ^ exponent.toNat = bottom at *
    have rounded := roundedQuotient_le top bottom
    rw [Nat.mul_comm] at fits
    have quotient : top / bottom < 2 * mantissaUnit := Nat.div_lt_of_lt_mul fits
    unfold infinityBits mantissaUnit at *
    omega

theorem ofInt_isNearest (number : Nat) (small : number.log2 < 1023) :
    IsNearest number (ofInt number) := by
  have near := nearest_isNearest number 1 Nat.one_pos (nearestBits_natCast_lt number small)
  rw [Nat.cast_one, div_one] at near
  have same : ofInt number = nearest false number 1 := by
    rw [ofInt, Int.natAbs_natCast, decide_eq_false (by omega)]
  rw [same]
  exact near

/-- The greatest word without sign is rounded up to the power of two behind it. -/
example : (ofInt (2 ^ 64 - 1)).toBits = (ofInt (2 ^ 64)).toBits := by decide +kernel

end RemoteQuery.Decimal
