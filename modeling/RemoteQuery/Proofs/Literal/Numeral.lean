import RemoteQuery.Proofs.Literal
set_option autoImplicit false

/-! Which texts read as numbers.  A numeral is a sign, digits with one point among them at
most, and an exponent, of which sign, point and exponent may be missing; blanks may stand
around it.  The reader goes from left to right and never comes back, and it accepts exactly
the numerals.  A literal that is no numeral stands in quotes. -/

namespace RemoteQuery

namespace Literal

/-- A number with blanks around it. -/
def IsNumeral (text : List Char) : Prop :=
  ∃ front sign size exponent back, text = front ++ (sign ++ size ++ exponent) ++ back ∧
    (∀ c, c ∈ front → Text.isBlank c = true) ∧ IsDecimal sign size ∧ IsExponent exponent ∧
    ∀ c, c ∈ back → Text.isBlank c = true

/-! ### Reading what is written -/

private theorem isDecimalChar_unsigned {c : Char} (decimal : isDecimalChar c = true) :
    c ≠ '+' ∧ c ≠ '-' := by
  constructor
  · rintro rfl
    exact absurd decimal (by decide)
  · rintro rfl
    exact absurd decimal (by decide)

theorem dropSign_of_isSign {sign rest : List Char} (isSign : IsSign sign)
    (unsigned : ∀ c, rest.head? = some c → c ≠ '+' ∧ c ≠ '-') :
    dropSign (sign ++ rest) = rest := by
  rcases isSign with rfl | rfl | rfl
  · cases rest with
    | nil => rfl
    | cons c others =>
        obtain ⟨notPlus, notMinus⟩ := unsigned c rfl
        rw [List.nil_append, dropSign, if_neg]
        simp [notPlus, notMinus]
  · rfl
  · rfl

/-- Digits and one point are passed over up to a character that is neither. -/
theorem mantissa_of_decimal {seenPoint : Bool} {size rest : List Char}
    (chars : ∀ c, c ∈ size → isDecimalChar c = true)
    (points : size.count '.' + seenPoint.toNat ≤ 1)
    (stops : ∀ c, rest.head? = some c → isDecimalChar c = false) :
    mantissa seenPoint (size ++ rest) = (size.countP Text.isAsciiDigit, rest) := by
  induction size generalizing seenPoint with
  | nil =>
      cases rest with
      | nil => rfl
      | cons c others =>
          have stop := stops c rfl
          rw [isDecimalChar, Bool.or_eq_false_iff, beq_eq_false_iff_ne] at stop
          simp [mantissa, stop.1, stop.2]
  | cons c size inductionHypothesis =>
      have others : ∀ other, other ∈ size → isDecimalChar other = true :=
        fun other member => chars other (List.mem_cons_of_mem c member)
      by_cases digit : Text.isAsciiDigit c = true
      · have noPoint : c ≠ '.' := by
          rintro rfl
          exact absurd digit (by decide)
        rw [List.count_cons_of_ne noPoint] at points
        have onward := inductionHypothesis others points
        simp only [List.cons_append, mantissa, digit, if_true, onward, List.countP_cons_of_pos]
      · have decimal := chars c List.mem_cons_self
        rw [isDecimalChar, Bool.or_eq_true, beq_iff_eq] at decimal
        have point := decimal.resolve_left digit
        subst point
        rw [List.count_cons_self] at points
        have firstPoint : seenPoint = false := by
          cases seenPoint with
          | false => rfl
          | true =>
              simp only [Bool.toNat_true] at points
              omega
        have onward := @inductionHypothesis true others (by
          simp only [Bool.toNat_true]
          omega)
        rw [List.countP_cons_of_neg digit, ← onward]
        simp [mantissa, firstPoint, digit]

private theorem isExponent_of_form {exponent : List Char} (form : IsExponent exponent) :
    isExponent exponent = true := by
  rcases form with rfl | ⟨mark, sign, digits, rfl, marks, isSign, filled, isDigits⟩
  · rfl
  · have unsigned : ∀ c, digits.head? = some c → c ≠ '+' ∧ c ≠ '-' := by
      intro c first
      have digit := isDigits c (List.mem_of_head? first)
      exact isDecimalChar_unsigned (isDecimalChar_of_digit digit)
    have all : digits.all Text.isAsciiDigit = true := List.all_eq_true.mpr isDigits
    simp only [isExponent, dropSign_of_isSign isSign unsigned, all]
    simp [marks, filled]

theorem IsExponent.head_not_decimal {exponent : List Char} (form : IsExponent exponent) :
    ∀ c, exponent.head? = some c → isDecimalChar c = false := by
  rcases form with rfl | ⟨mark, sign, digits, rfl, marks, _⟩
  · intro c none
    cases none
  · intro c first
    cases first
    rcases marks with rfl | rfl <;> decide

/-! ### No blank within -/

private theorem isDecimalChar_visible {c : Char} (decimal : isDecimalChar c = true) :
    Text.isBlank c = false := by
  rw [isDecimalChar, Bool.or_eq_true, beq_iff_eq] at decimal
  rcases decimal with digit | rfl
  · exact not_isBlank_of_digit digit
  · decide

theorem IsExponent.visible {exponent : List Char} (form : IsExponent exponent) :
    ∀ c, c ∈ exponent → Text.isBlank c = false := by
  rcases form with rfl | ⟨mark, sign, digits, rfl, marks, isSign, _, isDigits⟩
  · intro c none
    cases none
  · intro c member
    rcases List.mem_cons.mp member with rfl | behind
    · rcases marks with rfl | rfl <;> decide
    · rcases List.mem_append.mp behind with early | late
      · exact isSign.eq_of_mem early (by decide) (by decide)
      · exact not_isBlank_of_digit (isDigits c late)

/-! ### Numerals are read, and nothing else -/

private theorem isTrimmedNumber_of_decimal {sign size exponent : List Char}
    (decimal : IsDecimal sign size) (form : IsExponent exponent) :
    isTrimmedNumber (sign ++ size ++ exponent) = true := by
  obtain ⟨digit, member, isDigit⟩ := decimal.digit
  have unsigned : ∀ c, (size ++ exponent).head? = some c → c ≠ '+' ∧ c ≠ '-' := by
    intro c first
    obtain ⟨head, others, same⟩ := List.exists_cons_of_ne_nil (List.ne_nil_of_mem member)
    rw [same] at first
    cases first
    exact isDecimalChar_unsigned (decimal.chars c (same ▸ List.mem_cons_self))
  have counted : size.countP Text.isAsciiDigit ≠ 0 := by
    rw [Ne, List.countP_eq_zero]
    intro none
    exact none digit member isDigit
  have read := @mantissa_of_decimal false size exponent decimal.chars decimal.points
    form.head_not_decimal
  rw [isTrimmedNumber, List.append_assoc, dropSign_of_isSign decimal.sign unsigned, read]
  simp [counted, isExponent_of_form form]

theorem isNumeric_of_isNumeral {text : List Char} (numeral : IsNumeral text) :
    isNumeric text = true := by
  obtain ⟨front, sign, size, exponent, back, rfl, blankFront, decimal, form, blankBack⟩ := numeral
  have visible : ∀ c, c ∈ sign ++ size ++ exponent → Text.isBlank c = false := by
    intro c found
    rcases List.mem_append.mp found with found | late
    · rcases List.mem_append.mp found with early | inside
      · exact decimal.sign.eq_of_mem early (by decide) (by decide)
      · exact isDecimalChar_visible (decimal.chars c inside)
    · exact form.visible c late
  rw [isNumeric, Text.trim_of_solid blankFront visible blankBack]
  exact isTrimmedNumber_of_decimal decimal form

theorem IsDecimal.isNumeric {sign size : List Char} (decimal : IsDecimal sign size) :
    isNumeric (sign ++ size) = true := by
  apply isNumeric_of_isNumeral
  refine ⟨[], sign, size, [], [], ?_, ?_, decimal, Or.inl rfl, ?_⟩
  · simp
  · simp
  · simp

/-- A text reads as a number exactly when it is a numeral. -/
theorem isNumeric_iff (text : List Char) : isNumeric text = true ↔ IsNumeral text :=
  ⟨isNumeric_form, isNumeric_of_isNumeral⟩

/-- One point may stand anywhere among the digits, and a second one nowhere. -/
example : isNumeric "\u00a0-.5E+03\n".toList = true ∧ isNumeric "1.2.3".toList = false := by
  decide

end Literal

namespace Binding

/-! ### Literals that are numerals -/

/-- A whole number, a finite number or a truth value. -/
def isTyped : Binding → Bool
  | integer _ => true
  | real number => Decimal.isFinite number
  | flag _ => true
  | text _ => false

theorem literal_of_isTyped {binding : Binding} (typed : binding.isTyped = true) :
    ∃ sign size, Literal.IsDecimal sign size ∧
      ∀ policy, binding.literal policy = sign ++ size := by
  cases binding with
  | integer number =>
      obtain ⟨sign, size, decimal, same⟩ := Literal.integer_decimal number.toInt
      exact ⟨sign, size, decimal, fun _ => same⟩
  | real number =>
      have finite : Decimal.isFinite number = true := typed
      obtain ⟨sign, size, decimal, same⟩ := Literal.plain_decimal number finite
      refine ⟨sign, size, decimal, fun policy => ?_⟩
      rw [literal, if_pos finite, same]
  | flag value =>
      refine ⟨[], _, Literal.isDecimal_digitsOf (Or.inl rfl) value.toNat, fun policy => ?_⟩
      cases value <;> rfl
  | text value => cases typed

theorem isNumeric_literal {binding : Binding} (typed : binding.isTyped = true)
    (policy : LiteralPolicy) : Literal.isNumeric (binding.literal policy) = true := by
  obtain ⟨sign, size, decimal, same⟩ := literal_of_isTyped typed
  rw [same]
  exact decimal.isNumeric

theorem literal_numeral_or_quoted (policy : LiteralPolicy) (binding : Binding) :
    Literal.IsNumeral (binding.literal policy) ∨
      ∃ content, binding.literal policy = Literal.quote content := by
  cases typed : binding.isTyped with
  | true => exact Or.inl (Literal.isNumeric_form (isNumeric_literal typed policy))
  | false =>
      cases binding with
      | integer number => cases typed
      | flag value => cases typed
      | real number =>
          have infinite : Decimal.isFinite number = false := typed
          refine Or.inr ⟨(Decimal.plain number).toList, ?_⟩
          rw [literal, infinite, if_neg Bool.false_ne_true]
      | text value =>
          cases numeric : Literal.isNumeric value.toList with
          | true =>
              rw [literal_of_isNumeric numeric]
              exact Or.inl (Literal.isNumeric_form numeric)
          | false =>
              right
              cases policy with
              | verbatim =>
                  refine ⟨value.toList, ?_⟩
                  rw [literal, numeric, if_neg Bool.false_ne_true]
              | escapeQuotes =>
                  refine ⟨Literal.escape value.toList, ?_⟩
                  rw [literal, numeric, if_neg Bool.false_ne_true]

end Binding

end RemoteQuery
