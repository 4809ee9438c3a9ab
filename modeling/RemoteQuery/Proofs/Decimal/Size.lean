import Mathlib.Algebra.Order.Field.Power
import Mathlib.Data.Rat.Cast.Order
import Mathlib.Order.Monotone.Basic
import Mathlib.Tactic.Linarith
import Mathlib.Tactic.NormNum
import Mathlib.Tactic.Ring
import RemoteQuery.Decimal.Binary
set_option autoImplicit false

/-! Sizes of floating-point numbers, told by their bits.  More bits stand for a greater
size, and the next size is one unit of the last place further.  So to round without
falling below a representable size is to give bits whose next size is above the exact
value: this is all that is asked of an operation here. -/

namespace RemoteQuery.Decimal

def Binary.value (size : Binary) : ℚ := size.mantissa * (2 : ℚ) ^ size.exponent

/-- What the bits of a size stand for. -/
def binaryAt (bits : Nat) : Binary :=
  if bits / mantissaUnit = 0 then { mantissa := bits % mantissaUnit, exponent := -1074 }
  else
    { mantissa := mantissaUnit + bits % mantissaUnit
      exponent := ((bits / mantissaUnit : Nat) : Int) - 1075 }

def valueAt (bits : Nat) : ℚ := (binaryAt bits).value

theorem binaryOf_eq (number : Float) : binaryOf number = binaryAt (sizeBits number) := rfl

theorem binaryAt_packed (place mantissa : Nat) (fits : mantissa < 2 * mantissaUnit)
    (canonical : mantissaUnit ≤ mantissa ∨ place = 0) :
    binaryAt (place * mantissaUnit + mantissa)
      = { mantissa := mantissa, exponent := (place : Int) - 1074 } := by
  unfold binaryAt mantissaUnit at *
  rcases Nat.lt_or_ge mantissa 0x10000000000000 with small | full
  · have atLeast : place = 0 := by omega
    subst atLeast
    rw [if_pos (by omega)]
    congr 1
    omega
  · rw [if_neg (by omega)]
    congr 1 <;> omega

theorem binaryAt_unpacked (bits : Nat) :
    ∃ place mantissa : Nat, bits = place * mantissaUnit + mantissa ∧
      mantissa < 2 * mantissaUnit ∧ (mantissaUnit ≤ mantissa ∨ place = 0) := by
  unfold mantissaUnit
  rcases Nat.lt_or_ge bits 0x10000000000000 with small | full
  · exact ⟨0, bits, by omega, by omega, Or.inr rfl⟩
  · exact ⟨bits / 0x10000000000000 - 1, 0x10000000000000 + bits % 0x10000000000000,
      by omega, by omega, Or.inl (by omega)⟩

theorem valueAt_packed (place mantissa : Nat) (fits : mantissa < 2 * mantissaUnit)
    (canonical : mantissaUnit ≤ mantissa ∨ place = 0) :
    valueAt (place * mantissaUnit + mantissa) = mantissa * (2 : ℚ) ^ ((place : Int) - 1074) := by
  rw [valueAt, binaryAt_packed place mantissa fits canonical, Binary.value]

theorem two_zpow_succ (exponent : Int) :
    (2 : ℚ) ^ (exponent + 1) = 2 * (2 : ℚ) ^ exponent := by
  rw [zpow_add_one₀ two_ne_zero, mul_comm]

theorem valueAt_succ (bits : Nat) :
    valueAt (bits + 1) = valueAt bits + (2 : ℚ) ^ (binaryAt bits).exponent := by
  obtain ⟨place, mantissa, packed, fits, canonical⟩ := binaryAt_unpacked bits
  rw [packed, binaryAt_packed place mantissa fits canonical,
    valueAt_packed place mantissa fits canonical]
  rcases Nat.lt_or_ge (mantissa + 1) (2 * mantissaUnit) with within | full
  · rw [Nat.add_assoc, valueAt_packed place (mantissa + 1) within (by omega)]
    push_cast
    ring
  · have last : mantissa + 1 = 2 * mantissaUnit := by omega
    have carried : place * mantissaUnit + mantissa + 1
        = (place + 1) * mantissaUnit + mantissaUnit := by
      rw [Nat.add_assoc, last, Nat.add_mul, Nat.one_mul, Nat.two_mul, Nat.add_assoc]
    have full : (mantissa : ℚ) + 1 = 2 * mantissaUnit := by exact_mod_cast last
    have next : ((place + 1 : Nat) : Int) - 1074 = ((place : Int) - 1074) + 1 := by omega
    rw [carried, valueAt_packed (place + 1) mantissaUnit (by decide) (Or.inl (Nat.le_refl _)),
      next, two_zpow_succ]
    calc (mantissaUnit : ℚ) * (2 * 2 ^ ((place : Int) - 1074))
        = (2 * mantissaUnit) * 2 ^ ((place : Int) - 1074) := by ring
      _ = (mantissa + 1) * 2 ^ ((place : Int) - 1074) := by rw [full]
      _ = mantissa * 2 ^ ((place : Int) - 1074) + 2 ^ ((place : Int) - 1074) := by ring

theorem valueAt_strictMono : StrictMono valueAt := by
  refine strictMono_nat_of_lt_succ ?_
  intro bits
  have positive : (0 : ℚ) < 2 ^ (binaryAt bits).exponent := zpow_pos two_pos _
  rw [valueAt_succ]
  linarith

@[simp] theorem valueAt_zero : valueAt 0 = 0 := by
  rw [valueAt, Binary.value, show binaryAt 0 = { mantissa := 0, exponent := -1074 } from rfl,
    Nat.cast_zero, zero_mul]

theorem valueAt_nonneg (bits : Nat) : 0 ≤ valueAt bits := by
  rw [← valueAt_zero]
  exact valueAt_strictMono.monotone (Nat.zero_le bits)

theorem valueAt_pos {bits : Nat} (some : 0 < bits) : 0 < valueAt bits := by
  rw [← valueAt_zero]
  exact valueAt_strictMono some

private theorem exponent_mono {fewer more : Nat} (fewerBits : fewer ≤ more) :
    (binaryAt fewer).exponent ≤ (binaryAt more).exponent := by
  have shorter : fewer / mantissaUnit ≤ more / mantissaUnit := Nat.div_le_div_right fewerBits
  unfold binaryAt
  split <;> split <;> simp only <;> omega

theorem valueAt_add_le (bits count : Nat) :
    valueAt bits + count * (2 : ℚ) ^ (binaryAt bits).exponent ≤ valueAt (bits + count) := by
  induction count with
  | zero => simp
  | succ count inductionHypothesis =>
      have unit : (2 : ℚ) ^ (binaryAt bits).exponent ≤ 2 ^ (binaryAt (bits + count)).exponent :=
        zpow_le_zpow_right₀ one_le_two (exponent_mono (Nat.le_add_right bits count))
      rw [← Nat.add_assoc, valueAt_succ]
      push_cast
      linarith

/-- A mantissa that has grown too long for its exponent is still within what the bits
stand for. -/
theorem le_valueAt_packed (place mantissa : Nat)
    (canonical : mantissaUnit ≤ mantissa ∨ place = 0) :
    mantissa * (2 : ℚ) ^ ((place : Int) - 1074) ≤ valueAt (place * mantissaUnit + mantissa) := by
  rcases canonical with full | atLeast
  · obtain ⟨count, rfl⟩ := Nat.exists_eq_add_of_le full
    have further := valueAt_add_le (place * mantissaUnit + mantissaUnit) count
    rw [binaryAt_packed place mantissaUnit (by decide) (Or.inl (Nat.le_refl _)),
      valueAt_packed place mantissaUnit (by decide) (Or.inl (Nat.le_refl _)),
      Nat.add_assoc] at further
    push_cast
    linarith
  · subst atLeast
    have further := valueAt_add_le 0 mantissa
    simpa [binaryAt] using further

/-- A whole number of units with a mantissa of full precision or less is a size. -/
theorem exists_valueAt (place mantissa : Nat) (fits : mantissa < 2 * mantissaUnit) :
    ∃ bits, valueAt bits = mantissa * (2 : ℚ) ^ ((place : Int) - 1074) := by
  induction place generalizing mantissa with
  | zero => exact ⟨_, valueAt_packed 0 mantissa fits (Or.inr rfl)⟩
  | succ place inductionHypothesis =>
      rcases Nat.lt_or_ge mantissa mantissaUnit with short | full
      · obtain ⟨bits, same⟩ := inductionHypothesis (2 * mantissa) (by omega)
        have next : ((place + 1 : Nat) : Int) - 1074 = ((place : Int) - 1074) + 1 := by omega
        refine ⟨bits, ?_⟩
        rw [same, next, two_zpow_succ]
        push_cast
        ring
      · exact ⟨_, valueAt_packed (place + 1) mantissa fits (Or.inl full)⟩

theorem exists_valueAt_natCast (number : Nat) (fits : number < 2 * mantissaUnit) :
    ∃ bits, valueAt bits = number := by
  obtain ⟨bits, same⟩ := exists_valueAt 1074 number fits
  exact ⟨bits, by simpa using same⟩

def oneBits : Nat := 1023 * mantissaUnit

private theorem one_add_le_valueAt {bits : Nat} (above : oneBits < bits) :
    1 + (2 : ℚ) ^ (-52 : Int) ≤ valueAt bits := by
  have one : binaryAt oneBits = { mantissa := mantissaUnit, exponent := -52 } := by decide
  have next := valueAt_strictMono.monotone (Nat.succ_le_of_lt above)
  have same : valueAt oneBits = 1 := by
    rw [valueAt, one, Binary.value]
    norm_num [mantissaUnit]
  rw [Nat.succ_eq_add_one, valueAt_succ, same, one] at next
  exact next

/-- A product with a number above one reaches the next size. -/
theorem valueAt_succ_le_mul {bits factor : Nat} (full : mantissaUnit ≤ bits)
    (above : oneBits < factor) : valueAt (bits + 1) ≤ valueAt bits * valueAt factor := by
  have least := one_add_le_valueAt above
  have long : mantissaUnit ≤ (binaryAt bits).mantissa := by
    unfold binaryAt
    rw [if_neg (by unfold mantissaUnit at *; omega)]
    exact Nat.le_add_right _ _
  have longSize : (1 : ℚ) ≤ (binaryAt bits).mantissa * 2 ^ (-52 : Int) := by
    have cast : (mantissaUnit : ℚ) ≤ (binaryAt bits).mantissa := by exact_mod_cast long
    calc (1 : ℚ) = mantissaUnit * 2 ^ (-52 : Int) := by norm_num [mantissaUnit]
      _ ≤ (binaryAt bits).mantissa * 2 ^ (-52 : Int) :=
        mul_le_mul_of_nonneg_right cast (le_of_lt (zpow_pos two_pos _))
  have unit : (0 : ℚ) < 2 ^ (binaryAt bits).exponent := zpow_pos two_pos _
  calc valueAt (bits + 1) = valueAt bits + 2 ^ (binaryAt bits).exponent := valueAt_succ bits
    _ ≤ valueAt bits
        + (binaryAt bits).mantissa * 2 ^ (-52 : Int) * 2 ^ (binaryAt bits).exponent := by
      have further := mul_le_mul_of_nonneg_right longSize (le_of_lt unit)
      rw [one_mul] at further
      exact add_le_add_right further _
    _ = valueAt bits * (1 + 2 ^ (-52 : Int)) := by
      rw [valueAt, Binary.value]
      ring
    _ ≤ valueAt bits * valueAt factor := mul_le_mul_of_nonneg_left least (valueAt_nonneg bits)

/-! ### Results that do not fall short -/

/-- Bits of a size, perhaps an infinite one, that no size up to a value is above. -/
structure Covers (bits : Nat) (value : ℚ) : Prop where
  size : bits ≤ infinityBits
  above : bits < infinityBits → value < valueAt (bits + 1)

namespace Covers

variable {bits lower : Nat} {value less : ℚ}

theorem of_le (covers : Covers bits value) (below : less ≤ value) : Covers bits less :=
  ⟨covers.size, fun finite => lt_of_le_of_lt below (covers.above finite)⟩

theorem le_bits (covers : Covers bits value) (finite : bits < infinityBits)
    (below : valueAt lower ≤ value) : lower ≤ bits := by
  have within := lt_of_le_of_lt below (covers.above finite)
  exact Nat.lt_succ_iff.mp (valueAt_strictMono.lt_iff_lt.mp within)

theorem le_valueAt (covers : Covers bits value) (finite : bits < infinityBits)
    (below : valueAt lower ≤ value) : valueAt lower ≤ valueAt bits :=
  valueAt_strictMono.monotone (covers.le_bits finite below)

end Covers

theorem covers_infinity (value : ℚ) : Covers infinityBits value :=
  ⟨Nat.le_refl _, fun finite => absurd finite (Nat.lt_irrefl _)⟩

theorem covers_of_mantissa (place mantissa bits : Nat) (value : ℚ)
    (canonical : mantissaUnit ≤ mantissa ∨ place = 0)
    (reaches : place * mantissaUnit + mantissa ≤ bits)
    (below : value < (mantissa + 1) * (2 : ℚ) ^ ((place : Int) - 1074)) :
    Covers (min bits infinityBits) value := by
  refine ⟨Nat.min_le_right _ _, fun finite => ?_⟩
  have here : min bits infinityBits = bits := by omega
  rw [here]
  refine lt_of_lt_of_le below ?_
  have packed := le_valueAt_packed place (mantissa + 1) (by omega)
  push_cast at packed
  exact packed.trans (valueAt_strictMono.monotone (by omega))

/-! ### A whole number and a fraction -/

/-- A size between two neighbouring whole numbers: what it has above the lower one is a
size too, and so is the lower one. -/
theorem exists_fraction {bits number : Nat} (above : (number : ℚ) < valueAt bits)
    (below : valueAt bits < (number : ℚ) + 1) :
    (∃ whole, valueAt whole = number) ∧ ∃ rest, valueAt rest = valueAt bits - number := by
  obtain ⟨place, mantissa, packed, fits, canonical⟩ := binaryAt_unpacked bits
  rw [packed, valueAt_packed place mantissa fits canonical] at above below ⊢
  rcases Nat.lt_or_ge place 1074 with small | large
  · obtain ⟨count, counted⟩ := Nat.exists_eq_add_of_le (Nat.le_of_lt small)
    have power : (2 : ℚ) ^ ((place : Int) - 1074) * 2 ^ count = 1 := by
      rw [← zpow_natCast, ← zpow_add₀ two_ne_zero, show (place : Int) - 1074 + count = 0 by omega,
        zpow_zero]
    have longer : number * 2 ^ count < mantissa := by
      have scaled := mul_lt_mul_of_pos_right above (pow_pos (two_pos : (0 : ℚ) < 2) count)
      rw [mul_assoc, power, mul_one] at scaled
      exact_mod_cast scaled
    have shorter : number ≤ number * 2 ^ count := Nat.le_mul_of_pos_right _ (Nat.two_pow_pos _)
    refine ⟨exists_valueAt_natCast number (by omega), ?_⟩
    obtain ⟨rest, same⟩ := exists_valueAt place (mantissa - number * 2 ^ count) (by omega)
    refine ⟨rest, ?_⟩
    rw [same, Nat.cast_sub (Nat.le_of_lt longer), Nat.cast_mul, Nat.cast_pow, Nat.cast_two, sub_mul,
      mul_assoc, mul_comm (2 ^ count : ℚ), power, mul_one]
  · obtain ⟨count, rfl⟩ := Nat.exists_eq_add_of_le large
    have whole : (mantissa : ℚ) * 2 ^ (((1074 + count : Nat) : Int) - 1074)
        = (mantissa * 2 ^ count : Nat) := by
      rw [show (((1074 + count : Nat) : Int) - 1074) = count by omega, zpow_natCast]
      push_cast
      ring
    rw [whole] at above below
    have aboveNat : number < mantissa * 2 ^ count := by exact_mod_cast above
    have belowNat : mantissa * 2 ^ count < number + 1 := by exact_mod_cast below
    omega

/-- The size next to a rounded sum of a whole number and a fraction is not below their
exact sum, though each of the two has been rounded before. -/
theorem le_valueAt_succ_of_parts {whole rest sum number : Nat} {fraction : ℚ}
    (wholeCovers : Covers whole number) (restCovers : Covers rest fraction)
    (sumCovers : Covers sum (valueAt whole + valueAt rest)) (finiteWhole : whole < infinityBits)
    (finiteRest : rest < infinityBits) (finite : sum < infinityBits) (proper : fraction < 1) :
    number + fraction ≤ valueAt (sum + 1) := by
  by_contra short
  have short := lt_of_not_ge short
  have within := sumCovers.above finite
  rcases le_or_gt (valueAt (sum + 1)) (number : ℚ) with reached | passed
  · have atWhole := wholeCovers.le_valueAt finiteWhole reached
    have rest := valueAt_nonneg rest
    linarith
  · obtain ⟨⟨lower, isNumber⟩, ⟨upper, isRest⟩⟩ := exists_fraction passed (by linarith)
    have atWhole := wholeCovers.le_valueAt finiteWhole (le_of_eq isNumber)
    have atRest : valueAt upper ≤ valueAt rest :=
      restCovers.le_valueAt finiteRest (by linarith)
    linarith

end RemoteQuery.Decimal
