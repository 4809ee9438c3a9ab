import RemoteQuery.Poll
import RemoteQuery.Proofs.Decimal.Rounding
set_option autoImplicit false

/-! A longer interval.  An interval is turned into seconds by a division and a sum, each
rounded, and the product with the factor is rounded twice more.  Still the size next to
the seconds is not below the interval, and a factor above one reaches at least that size:
so a product that can be had is never shorter than the interval. -/

namespace RemoteQuery

open Decimal

/-! ### Seconds -/

private theorem toBits_nanosPerSecond :
    (ofInt (nanosPerSecond : Nat)).toBits.toNat = 0x41CDCD6500000000 := by
  decide +kernel

private theorem valueAt_nanosPerSecond : valueAt 0x41CDCD6500000000 = (nanosPerSecond : Nat) := by
  have packed : 0x41CDCD6500000000 = 1051 * mantissaUnit + 0x1DCD6500000000 := by decide
  rw [packed, valueAt_packed 1051 0x1DCD6500000000 (by decide) (Or.inl (by decide))]
  norm_num [nanosPerSecond]

private theorem valueAt_mantissaUnit_le : valueAt mantissaUnit ≤ 1 / (nanosPerSecond : Nat) := by
  have packed : mantissaUnit = 0 * mantissaUnit + mantissaUnit := by decide
  rw [packed, valueAt_packed 0 mantissaUnit (by decide) (Or.inr rfl)]
  calc (mantissaUnit : ℚ) * 2 ^ (((0 : Nat) : Int) - 1074)
      ≤ mantissaUnit * 2 ^ (-82 : Int) :=
        mul_le_mul_of_nonneg_left (zpow_le_zpow_right₀ one_le_two (by decide)) (Nat.cast_nonneg _)
    _ ≤ 1 / (nanosPerSecond : Nat) := by norm_num [mantissaUnit, nanosPerSecond]

private theorem nanosPerSecond_pos : (0 : ℚ) < nanosPerSecond := by
  decide +kernel

private theorem mantissaUnit_le {bits : Nat} {value : ℚ} (covers : Covers bits value)
    (finite : bits < infinityBits) (reached : 1 / (nanosPerSecond : Nat) ≤ value) :
    mantissaUnit ≤ bits :=
  covers.le_bits finite (valueAt_mantissaUnit_le.trans reached)

private theorem fraction_covers (rest : Nat) (proper : rest < nanosPerSecond) :
    Covers (ofInt rest / ofInt (nanosPerSecond : Nat)).toBits.toNat
      ((rest : ℚ) / nanosPerSecond) := by
  have restCovers := ofInt_covers rest
  have finiteUnit : (ofInt (nanosPerSecond : Nat)).toBits.toNat < infinityBits := by
    rw [toBits_nanosPerSecond]
    decide
  have someUnit : 0 < (ofInt (nanosPerSecond : Nat)).toBits.toNat := by
    rw [toBits_nanosPerSecond]
    decide
  obtain ⟨covers, finiteRest⟩ := div_covers restCovers.size finiteUnit someUnit
  rw [toBits_nanosPerSecond, valueAt_nanosPerSecond] at covers
  refine ⟨covers.size, fun finite => ?_⟩
  obtain ⟨bits, isRest⟩ := exists_valueAt_natCast rest (Nat.lt_trans proper (by decide))
  have atRest := restCovers.le_valueAt (finiteRest finite) (le_of_eq isRest)
  rw [isRest] at atRest
  exact (covers.of_le
    (div_le_div_of_nonneg_right atRest (le_of_lt nanosPerSecond_pos))).above finite

/-- The seconds of an interval, as long as they are finite: the size next to them is not
below the interval, and they are not so small that sizes lie equally apart. -/
structure Seconds (nanos bits : Nat) : Prop where
  next : (nanos : ℚ) / nanosPerSecond ≤ valueAt (bits + 1)
  full : 0 < nanos → mantissaUnit ≤ bits

private theorem secondsOf_spec (nanos : Nat) :
    (secondsOf nanos).toBits.toNat ≤ infinityBits ∧
      ((secondsOf nanos).toBits.toNat < infinityBits →
        Seconds nanos (secondsOf nanos).toBits.toNat) := by
  unfold secondsOf
  have parts := Nat.div_add_mod nanos nanosPerSecond
  have proper := Nat.mod_lt nanos (y := nanosPerSecond) (by decide)
  generalize nanos / nanosPerSecond = whole at *
  generalize nanos % nanosPerSecond = rest at *
  have wholeCovers := ofInt_covers whole
  have restCovers := fraction_covers rest proper
  obtain ⟨sumCovers, finiteParts⟩ := add_covers wholeCovers.size restCovers.size
  refine ⟨sumCovers.size, fun finite => ?_⟩
  obtain ⟨finiteWhole, finiteRest⟩ := finiteParts finite
  constructor
  · have total : (nanos : ℚ) / nanosPerSecond = whole + rest / nanosPerSecond := by
      rw [← parts, Nat.cast_add, Nat.cast_mul, add_div,
        mul_div_cancel_left₀ _ (ne_of_gt nanosPerSecond_pos)]
    have properFraction : (rest : ℚ) / nanosPerSecond < 1 := by
      rw [div_lt_iff₀ nanosPerSecond_pos, one_mul]
      exact_mod_cast proper
    rw [total]
    exact le_valueAt_succ_of_parts wholeCovers restCovers sumCovers finiteWhole finiteRest
      finite properFraction
  · intro some
    rcases Nat.eq_zero_or_pos rest with none | someRest
    · have someWhole : 1 ≤ whole := by unfold nanosPerSecond at parts; omega
      have small : (1 : ℚ) / nanosPerSecond ≤ 1 := by decide +kernel
      have atWhole := mantissaUnit_le wholeCovers finiteWhole
        (small.trans (by exact_mod_cast someWhole))
      exact atWhole.trans (sumCovers.le_bits finite (le_add_of_nonneg_right (valueAt_nonneg _)))
    · have atRest := mantissaUnit_le restCovers finiteRest
        (div_le_div_of_nonneg_right (by exact_mod_cast someRest) (le_of_lt nanosPerSecond_pos))
      exact atRest.trans (sumCovers.le_bits finite (le_add_of_nonneg_left (valueAt_nonneg _)))

/-! ### Nanoseconds -/

private theorem le_nanosOf? (seconds : Float) (nanos next : Nat)
    (size : seconds.toBits.toNat ≤ infinityBits) (held : nanosOf? seconds = some next) :
    seconds.toBits.toNat < infinityBits ∧
      ((nanos : ℚ) / nanosPerSecond ≤ valueAt seconds.toBits.toNat → nanos ≤ next) := by
  have bits : sizeBits seconds = seconds.toBits.toNat :=
    Nat.mod_eq_of_lt (by unfold infinityBits mantissaUnit at size; unfold halfWord; omega)
  unfold nanosOf? at held
  split at held
  · cases held
  · rename_i valid
    have finite : seconds.toBits.toNat < infinityBits := by
      rw [← bits]
      by_contra infinite
      exact valid (by simp [isFinite, infinite])
    refine ⟨finite, fun reaches => ?_⟩
    dsimp only at held
    split at held
    · cases held
      refine Nat.le_trans ?_ (le_roundedQuotient _ _)
      rw [binaryOf_eq, bits]
      refine (Nat.le_div_iff_mul_le (Nat.two_pow_pos _)).mpr ?_
      rw [div_le_iff₀ nanosPerSecond_pos, valueAt, Binary.value] at reaches
      have power := two_zpow_mul_toNat (binaryAt seconds.toBits.toNat).exponent
      have scaled := mul_le_mul_of_nonneg_right reaches
        (le_of_lt (pow_pos (two_pos : (0 : ℚ) < 2)
          (-(binaryAt seconds.toBits.toNat).exponent).toNat))
      have counted : (nanos : ℚ) * 2 ^ (-(binaryAt seconds.toBits.toNat).exponent).toNat
          ≤ (binaryAt seconds.toBits.toNat).mantissa
            * 2 ^ (binaryAt seconds.toBits.toNat).exponent.toNat * nanosPerSecond := by
        rw [← power]
        linarith
      exact_mod_cast counted
    · cases held

/-! ### The next interval -/

namespace PollPolicy

variable {policy : PollPolicy} {current next : Nat}

private theorem oneBits_lt_of_grows (grows : policy.grows = true) :
    oneBits < policy.backoffFactor.toBits.toNat ∧
      policy.backoffFactor.toBits.toNat < infinityBits := by
  rw [PollPolicy.grows, Bool.and_eq_true, Bool.not_eq_true', decide_eq_false_iff_not] at grows
  exact oneBits_lt policy.backoffFactor grows.1 grows.2

theorem le_of_product (grows : policy.grows = true)
    (held : nanosOf? (secondsOf current * policy.backoffFactor) = some next) :
    current ≤ next := by
  obtain ⟨above, finiteFactor⟩ := oneBits_lt_of_grows grows
  obtain ⟨size, seconds⟩ := secondsOf_spec current
  obtain ⟨productCovers, finiteSeconds⟩ :=
    mul_covers size finiteFactor (Nat.lt_of_le_of_lt (Nat.zero_le _) above)
  obtain ⟨finite, reaches⟩ := le_nanosOf? _ current next productCovers.size held
  have seconds := seconds (finiteSeconds finite)
  rcases Nat.eq_zero_or_pos current with none | some
  · rw [none]
    exact Nat.zero_le next
  · refine reaches (seconds.next.trans ?_)
    exact productCovers.le_valueAt finite (valueAt_succ_le_mul (seconds.full some) above)

theorem nextInterval_kept (stays : policy.grows = false) :
    policy.nextInterval current = current := by
  rw [nextInterval, stays]
  rfl

theorem nextInterval_overflowed (grows : policy.grows = true)
    (lost : nanosOf? (secondsOf current * policy.backoffFactor) = none) :
    policy.nextInterval current = policy.ceiling := by
  rw [nextInterval, if_pos grows, lost]

private theorem nextInterval_product (grows : policy.grows = true)
    (held : nanosOf? (secondsOf current * policy.backoffFactor) = some next) :
    policy.nextInterval current = min next policy.ceiling := by
  rw [nextInterval, if_pos grows, held]

/-- An interval up to the ceiling is followed by one that is not shorter, and up to the
ceiling again. -/
theorem nextInterval_between (within : current ≤ policy.ceiling) :
    current ≤ policy.nextInterval current ∧ policy.nextInterval current ≤ policy.ceiling := by
  cases grows : policy.grows with
  | false =>
      rw [nextInterval_kept grows]
      exact ⟨Nat.le_refl current, within⟩
  | true =>
      cases product : nanosOf? (secondsOf current * policy.backoffFactor) with
      | none =>
          rw [nextInterval_overflowed grows product]
          exact ⟨within, Nat.le_refl _⟩
      | some next =>
          rw [nextInterval_product grows product]
          exact ⟨Nat.le_min.mpr ⟨le_of_product grows product, within⟩, Nat.min_le_right _ _⟩

end PollPolicy

end RemoteQuery
