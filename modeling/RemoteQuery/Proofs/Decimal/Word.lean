import RemoteQuery.Proofs.Decimal.Size
set_option autoImplicit false

/-! Numbers as words of 64 bits.  The operations read a mantissa and an exponent off a
word and write such a pair back; both directions agree with what the bits of a size
stand for. -/

namespace RemoteQuery.Decimal

open Float.Model Float.Model.UnpackedFloat

private theorem toNat_unpackMantissa (bits : BitVec 64) :
    (@unpackMantissa Format.binary64 bits).toNat = bits.toNat % mantissaUnit := by
  unfold unpackMantissa
  simp [BitVec.extractLsb, BitVec.extractLsb'_toNat, mantissaUnit]

private theorem toNat_unpackExponent (bits : BitVec 64) :
    (@unpackExponent Format.binary64 bits).toNat
      = bits.toNat / mantissaUnit % 2048 := by
  unfold unpackExponent
  simp [BitVec.extractLsb, BitVec.extractLsb'_toNat, mantissaUnit, Nat.shiftRight_eq_div_pow]

private theorem toNat_unpackSign (bits : BitVec 64) :
    (@unpackSign Format.binary64 bits).toNat = bits.toNat / halfWord := by
  have fits : bits.toNat < 2 ^ 64 := bits.isLt
  unfold unpackSign
  simp only [BitVec.toNat_cast, BitVec.extractLsb, BitVec.extractLsb'_toNat,
    Nat.shiftRight_eq_div_pow]
  change bits.toNat / 2 ^ 63 % 2 = bits.toNat / 2 ^ 63
  omega

private theorem toNat_packComponents (exponent : BitVec 11) (mantissa : BitVec 52) :
    (packComponents Format.binary64 .positive exponent mantissa).toNat
      = exponent.toNat * mantissaUnit + mantissa.toNat := by
  unfold packComponents
  simp only [Sign.toBitVec]
  rw [BitVec.toNat_append, BitVec.toNat_append]
  rw [← Nat.shiftLeft_add_eq_or_of_lt mantissa.isLt]
  simp [Nat.shiftLeft_eq, mantissaUnit]

private theorem toNat_whole (mantissa : BitVec 52) :
    (1#1 ++ mantissa).toNat = mantissaUnit + mantissa.toNat := by
  rw [BitVec.toNat_append, ← Nat.shiftLeft_add_eq_or_of_lt (BitVec.isLt _)]
  rfl

def sized (mantissa : Nat) (exponent : Int) : UnpackedFloat :=
  if none : mantissa = 0 then .zero .positive
  else .finite .positive mantissa exponent (Nat.pos_of_ne_zero none)

theorem unpack_infinity (bits : BitVec 64) (infinite : bits.toNat = infinityBits) :
    UnpackedFloat.unpack Format.binary64 bits = .infinity .positive := by
  have same : bits = 0x7FF0000000000000#64 := BitVec.eq_of_toNat_eq infinite
  rw [same]
  rfl

private theorem unpack_finite (bits : BitVec 64) (finite : bits.toNat < infinityBits) :
    UnpackedFloat.unpack Format.binary64 bits
      = sized (binaryAt bits.toNat).mantissa (binaryAt bits.toNat).exponent := by
  have mantissa := toNat_unpackMantissa bits
  have exponent := toNat_unpackExponent bits
  have sign : @unpackSign Format.binary64 bits = 0#1 := by
    refine BitVec.eq_of_toNat_eq ((toNat_unpackSign bits).trans (Nat.div_eq_of_lt ?_))
    exact Nat.lt_trans finite (by decide)
  unfold infinityBits at finite
  have below : bits.toNat / mantissaUnit < 2047 := by unfold mantissaUnit at *; omega
  rw [Nat.mod_eq_of_lt (by omega)] at exponent
  have notInfinite : @unpackExponent Format.binary64 bits ≠ -1#_ := by
    intro same
    rw [same] at exponent
    change 2047 = _ at exponent
    omega
  unfold UnpackedFloat.unpack
  dsimp only
  rw [sign, if_neg notInfinite]
  by_cases least : bits.toNat / mantissaUnit = 0
  · have noExponent : @unpackExponent Format.binary64 bits = 0#_ :=
      BitVec.eq_of_toNat_eq (exponent.trans least)
    rw [if_pos noExponent, noExponent, binaryAt, if_pos least, ← mantissa]
    by_cases none : @unpackMantissa Format.binary64 bits = 0#_
    · rw [dif_pos none, sized, dif_pos (by rw [none]; rfl)]
      rfl
    · have someMantissa : (@unpackMantissa Format.binary64 bits).toNat ≠ 0 :=
        fun zero => none (BitVec.eq_of_toNat_eq zero)
      rw [dif_neg none, sized, dif_neg someMantissa]
      rfl
  · have someExponent : @unpackExponent Format.binary64 bits ≠ 0#_ := by
      intro same
      rw [same] at exponent
      exact least exponent.symm
    have whole : (1#1 ++ @unpackMantissa Format.binary64 bits).toNat
        = mantissaUnit + bits.toNat % mantissaUnit := by
      rw [toNat_whole, mantissa]
    have someMantissa : (1#1 ++ @unpackMantissa Format.binary64 bits).toNat ≠ 0 := by
      rw [whole]
      unfold mantissaUnit
      omega
    rw [if_neg someExponent, binaryAt, if_neg least, ← whole, sized, dif_neg someMantissa, exponent]
    rfl

theorem unpack_negative (bits : BitVec 64) (negative : halfWord ≤ bits.toNat)
    (finite : bits.toNat % halfWord < infinityBits) :
    UnpackedFloat.unpack Format.binary64 bits = .zero .negative ∨
      ∃ mantissa exponent positive, UnpackedFloat.unpack Format.binary64 bits
        = .finite .negative mantissa exponent positive := by
  have exponent := toNat_unpackExponent bits
  have sign : @unpackSign Format.binary64 bits = 1#1 := by
    refine BitVec.eq_of_toNat_eq ((toNat_unpackSign bits).trans ?_)
    have fits : bits.toNat < 2 ^ 64 := bits.isLt
    change bits.toNat / halfWord = 1
    unfold halfWord at *
    omega
  have notInfinite : @unpackExponent Format.binary64 bits ≠ -1#_ := by
    intro same
    rw [same] at exponent
    change 2047 = _ at exponent
    unfold halfWord infinityBits at finite
    unfold mantissaUnit at *
    omega
  unfold UnpackedFloat.unpack
  dsimp only
  rw [sign, if_neg notInfinite]
  by_cases least : @unpackExponent Format.binary64 bits = 0#_
  · rw [if_pos least]
    by_cases none : @unpackMantissa Format.binary64 bits = 0#_
    · rw [dif_pos none]
      exact Or.inl rfl
    · rw [dif_neg none]
      exact Or.inr ⟨_, _, Nat.pos_of_ne_zero (fun zero => none (BitVec.eq_of_toNat_eq zero)), rfl⟩
  · rw [if_neg least]
    exact Or.inr ⟨_, _, by rw [toNat_whole]; exact Nat.add_pos_left (by decide) _, rfl⟩

theorem toNat_pack_sized (place mantissa : Nat)
    (fits : mantissa < 2 * mantissaUnit) (canonical : mantissaUnit ≤ mantissa ∨ place = 0) :
    (UnpackedFloat.pack Format.binary64 (sized mantissa ((place : Int) - 1074))).toNat
      = min (place * mantissaUnit + mantissa) infinityBits := by
  rcases Nat.eq_zero_or_pos mantissa with none | some
  · have atLeast : place = 0 := by unfold mantissaUnit at canonical; omega
    rw [sized, dif_pos none, none, atLeast]
    rfl
  rw [sized, dif_neg (Nat.ne_of_gt some)]
  have biased : (((place : Int) - 1074 + (Format.binary64.exponentBias : Int)
      + (Format.binary64.mantissaBitsWithoutImplicit : Int)).toNat) = place + 1 := by
    change ((place : Int) - 1074 + 1023 + 52).toNat = place + 1
    omega
  have precision : mantissa.log2 + 1 = Format.binary64.mantissaBits ↔ mantissaUnit ≤ mantissa := by
    change mantissa.log2 + 1 = 53 ↔ 2 ^ 52 ≤ mantissa
    rw [← Nat.le_log2 (Nat.ne_of_gt some)]
    have short := (Nat.log2_lt (Nat.ne_of_gt some) (k := 53)).mpr fits
    omega
  unfold UnpackedFloat.pack
  dsimp only
  rw [biased]
  unfold infinityBits
  by_cases infinite : 2 ^ Format.binary64.exponentBits ≤ place + 1 + 1
  · have large : 2046 ≤ place := by change 2048 ≤ place + 1 + 1 at infinite; omega
    rw [if_pos infinite, packedInfinity, toNat_packComponents]
    change 2047 * mantissaUnit + 0 = _
    unfold mantissaUnit at *
    omega
  · have small : place < 2046 := by change ¬2048 ≤ place + 1 + 1 at infinite; omega
    rw [if_neg infinite]
    by_cases full : mantissaUnit ≤ mantissa
    · rw [if_pos (precision.mpr full), toNat_packComponents, BitVec.toNat_ofNat,
        BitVec.toNat_ofNat]
      change (place + 1) % 2048 * mantissaUnit + mantissa % 0x10000000000000 = _
      unfold mantissaUnit at *
      omega
    · rw [if_neg (fun long => full (precision.mp long)), toNat_packComponents, BitVec.toNat_ofNat]
      change 0 % 2048 * mantissaUnit + mantissa % 0x10000000000000 = _
      unfold mantissaUnit at *
      omega

/-- A finite size as the operations read it, with its value. -/
inductive Reads : UnpackedFloat → ℚ → Prop where
  | zero : Reads (.zero .positive) 0
  | some (place mantissa : Nat) (positive : 0 < mantissa) (fits : mantissa < 2 * mantissaUnit)
      (canonical : mantissaUnit ≤ mantissa ∨ place = 0) :
      Reads (.finite .positive mantissa ((place : Int) - 1074) positive)
        (mantissa * (2 : ℚ) ^ ((place : Int) - 1074))

theorem reads_binaryAt (bits : Nat) :
    Reads (sized (binaryAt bits).mantissa (binaryAt bits).exponent) (valueAt bits) := by
  obtain ⟨place, mantissa, packed, fits, canonical⟩ := binaryAt_unpacked bits
  rw [packed, valueAt_packed place mantissa fits canonical,
    binaryAt_packed place mantissa fits canonical]
  rcases Nat.eq_zero_or_pos mantissa with none | positive
  · subst none
    rw [Nat.cast_zero, zero_mul]
    exact .zero
  · rw [sized, dif_neg (Nat.ne_of_gt positive)]
    exact .some place mantissa positive fits canonical

private theorem toNat_pack_binaryAt (bits : Nat) (size : bits ≤ infinityBits) :
    (UnpackedFloat.pack Format.binary64
      (sized (binaryAt bits).mantissa (binaryAt bits).exponent)).toNat = bits := by
  obtain ⟨place, mantissa, packed, fits, canonical⟩ := binaryAt_unpacked bits
  rw [packed, binaryAt_packed place mantissa fits canonical]
  rw [toNat_pack_sized place mantissa fits canonical, ← packed]
  omega

theorem toBits_ofSizeBits (bits : Nat) (size : bits ≤ infinityBits) :
    (ofSizeBits false bits).toBits.toNat = bits := by
  have fits : bits < 2 ^ 64 := by unfold infinityBits mantissaUnit at size; omega
  have word : (BitVec.ofNat 64 bits).toNat = bits := by
    rw [BitVec.toNat_ofNat, Nat.mod_eq_of_lt fits]
  have read : (ofSizeBits false bits).toBits.toNat = (UnpackedFloat.pack Format.binary64
      (UnpackedFloat.unpack Format.binary64 (BitVec.ofNat 64 (0 + bits)))).toNat := rfl
  rw [read, Nat.zero_add]
  rcases Nat.lt_or_eq_of_le size with finite | infinite
  · rw [unpack_finite _ (by rw [word]; exact finite), word, toNat_pack_binaryAt bits size]
  · rw [unpack_infinity _ (word.trans infinite), infinite]
    rfl

/-! ### Numbers above one -/

theorem unpack_of_finite (number : Float) (finite : number.toBits.toNat < infinityBits) :
    number.toModel.unpack = sized (binaryAt number.toBits.toNat).mantissa
      (binaryAt number.toBits.toNat).exponent :=
  unpack_finite number.toModel.toBits.toBitVec finite

private theorem unpack_one : ∃ positive, (ofInt 1).toModel.unpack
    = .finite .positive mantissaUnit (-52) positive :=
  ⟨_, rfl⟩

theorem le_iff_unpack (left right : Float) :
    left ≤ right ↔ left.toModel.unpack.le right.toModel.unpack = true :=
  decide_eq_true_iff

theorem oneBits_lt (number : Float) (finite : isFinite number = true)
    (above : ¬number ≤ ofInt 1) :
    oneBits < number.toBits.toNat ∧ number.toBits.toNat < infinityBits := by
  have finiteBits : number.toBits.toNat % halfWord < infinityBits := of_decide_eq_true finite
  obtain ⟨onePositive, one⟩ := unpack_one
  rw [le_iff_unpack, one] at above
  rcases Nat.lt_or_ge number.toBits.toNat halfWord with positive | negative
  · rw [Nat.mod_eq_of_lt positive] at finiteBits
    refine ⟨?_, finiteBits⟩
    have unpacked := unpack_of_finite number finiteBits
    obtain ⟨place, mantissa, packed, fits, canonical⟩ := binaryAt_unpacked number.toBits.toNat
    rw [packed] at unpacked ⊢
    rw [binaryAt_packed place mantissa fits canonical] at unpacked
    rw [unpacked] at above
    rcases Nat.eq_zero_or_pos mantissa with none | some
    · subst none
      exact absurd rfl above
    · rw [sized, dif_neg (Nat.ne_of_gt some)] at above
      by_contra small
      refine above ?_
      unfold oneBits at small
      have order : ((compare ((place : Int) - 1074) (-52)).then
          (compare mantissa mantissaUnit)).isLE = true := by
        rcases Nat.lt_or_ge place 1022 with lower | reached
        · rw [Int.compare_eq_lt.mpr (by omega)]
          rfl
        · have same : place = 1022 := by unfold mantissaUnit at *; omega
          rw [same]
          have atMost : mantissa ≤ mantissaUnit := by unfold mantissaUnit at *; omega
          rw [show compare (((1022 : Nat) : Int) - 1074) (-52) = .eq by decide]
          exact Nat.isLE_compare.mpr atMost
      exact order
  · rcases unpack_negative number.toModel.toBits.toBitVec negative finiteBits with
      zero | ⟨mantissa, exponent, positive, some⟩
    · refine absurd ?_ above
      rw [Float.Model.unpack, zero]
      rfl
    · refine absurd ?_ above
      rw [Float.Model.unpack, some]
      rfl

end RemoteQuery.Decimal
