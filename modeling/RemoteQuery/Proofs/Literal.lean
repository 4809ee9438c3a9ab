import RemoteQuery.Literal
import RemoteQuery.Proofs.Text.Blank
set_option autoImplicit false

/-! The two forms of a literal.  A bare one is a number, with blanks around it at most.
Any other stands in single quotes, and the quotes inside come in pairs as long as they
are escaped or there are none. -/

namespace RemoteQuery

namespace Literal

def isBareChar (c : Char) : Bool :=
  Text.isBlank c || Text.isAsciiDigit c || c == '+' || c == '-' || c == '.' || c == 'e' || c == 'E'

/-- A text of such characters, not all of them blank. -/
structure IsBare (text : List Char) : Prop where
  chars : ∀ c, c ∈ text → isBareChar c = true
  visible : ∃ c, c ∈ text ∧ Text.isBlank c = false

def isDecimalChar (c : Char) : Bool := Text.isAsciiDigit c || c == '.'

def IsSign (sign : List Char) : Prop := sign = [] ∨ sign = ['+'] ∨ sign = ['-']

structure IsSigned (sign size : List Char) : Prop where
  sign : IsSign sign
  chars : ∀ c, c ∈ size → isDecimalChar c = true
  digit : ∃ c, c ∈ size ∧ Text.isAsciiDigit c = true

/-- Such a number with one point at most. -/
structure IsDecimal (sign size : List Char) : Prop extends IsSigned sign size where
  points : size.count '.' ≤ 1

def IsExponent (exponent : List Char) : Prop :=
  exponent = [] ∨ ∃ mark sign digits, exponent = mark :: (sign ++ digits) ∧
    (mark = 'e' ∨ mark = 'E') ∧ IsSign sign ∧ digits ≠ [] ∧
    ∀ c, c ∈ digits → Text.isAsciiDigit c = true

/-- A text in which single quotes stand in pairs. -/
inductive Paired : List Char → Prop where
  | nil : Paired []
  | other {c : Char} {rest : List Char} (different : c ≠ '\'') (paired : Paired rest) :
      Paired (c :: rest)
  | pair {rest : List Char} (paired : Paired rest) : Paired ('\'' :: '\'' :: rest)

private theorem paired_escape (text : List Char) : Paired (escape text) := by
  induction text with
  | nil => exact .nil
  | cons c rest inductionHypothesis =>
      rw [escape]
      by_cases quote : c = '\''
      · rw [if_pos quote]
        exact .pair inductionHypothesis
      · rw [if_neg quote]
        exact .other quote inductionHypothesis

theorem paired_of_absent {text : List Char} (absent : '\'' ∉ text) : Paired text := by
  induction text with
  | nil => exact .nil
  | cons c rest inductionHypothesis =>
      have first : c ≠ '\'' := fun same => absent (List.mem_cons.mpr (Or.inl same.symm))
      have others : '\'' ∉ rest := fun member => absent (List.mem_cons_of_mem c member)
      exact .other first (inductionHypothesis others)

/-! ### Numbers -/

private theorem isBareChar_of_digit {c : Char} (digit : Text.isAsciiDigit c = true) :
    isBareChar c = true := by
  rw [isBareChar, digit, Bool.or_true]
  rfl

private theorem isBareChar_of_blank {c : Char} (blank : Text.isBlank c = true) :
    isBareChar c = true := by
  rw [isBareChar, blank]
  rfl

theorem isDecimalChar_of_digit {c : Char} (digit : Text.isAsciiDigit c = true) :
    isDecimalChar c = true := by
  rw [isDecimalChar, digit]
  rfl

private theorem isBareChar_of_decimal {c : Char} (decimal : isDecimalChar c = true) :
    isBareChar c = true := by
  rw [isDecimalChar, Bool.or_eq_true, beq_iff_eq] at decimal
  rcases decimal with digit | point
  · exact isBareChar_of_digit digit
  · rw [point]
    rfl

theorem IsSign.eq_of_mem {sign : List Char} (isSign : IsSign sign) {c : Char}
    (member : c ∈ sign) {test : Char → Bool} {answer : Bool} (plus : test '+' = answer)
    (minus : test '-' = answer) : test c = answer := by
  rcases isSign with rfl | rfl | rfl
  · cases member
  · rw [List.mem_singleton.mp member]
    exact plus
  · rw [List.mem_singleton.mp member]
    exact minus

theorem not_isBlank_of_digit {c : Char} (digit : Text.isAsciiDigit c = true) :
    Text.isBlank c = false := by
  rw [Text.isAsciiDigit, Bool.and_eq_true, decide_eq_true_eq, decide_eq_true_eq] at digit
  have low : 48 ≤ c.toNat := digit.1
  have high : c.toNat ≤ 57 := digit.2
  simp only [Text.isBlank, Bool.or_eq_false_iff, Bool.and_eq_false_iff, decide_eq_false_iff_not,
    beq_eq_false_iff_ne]
  omega

theorem IsBare.of_digit {text : List Char} (chars : ∀ c, c ∈ text → isBareChar c = true)
    {digit : Char} (member : digit ∈ text) (isDigit : Text.isAsciiDigit digit = true) :
    IsBare text :=
  ⟨chars, digit, member, not_isBlank_of_digit isDigit⟩

theorem digitsOf_digits (number : Nat) :
    ∀ c, c ∈ Decimal.digitsOf number → Text.isAsciiDigit c = true := by
  intro c member
  have digit := Nat.isDigit_of_mem_toDigits (by decide) (by decide) member
  exact digit

theorem digitsOf_unquoted (number : Nat) : '\'' ∉ Decimal.digitsOf number := by
  intro member
  have impossible := digitsOf_digits number '\'' member
  revert impossible
  decide

private theorem exists_digit (number : Nat) :
    ∃ c, c ∈ Decimal.digitsOf number ∧ Text.isAsciiDigit c = true := by
  obtain ⟨c, member⟩ := List.exists_mem_of_ne_nil (Decimal.digitsOf number) Nat.toDigits_ne_nil
  exact ⟨c, member, digitsOf_digits number c member⟩

theorem IsSigned.isBare {sign size : List Char} (signed : IsSigned sign size) :
    IsBare (sign ++ size) := by
  obtain ⟨c, member, isDigit⟩ := signed.digit
  refine .of_digit ?_ (List.mem_append_right sign member) isDigit
  intro other found
  rcases List.mem_append.mp found with here | behind
  · exact signed.sign.eq_of_mem here (by decide) (by decide)
  · exact isBareChar_of_decimal (signed.chars other behind)

private theorem count_point_of_digits {digits : List Char}
    (isDigits : ∀ c, c ∈ digits → Text.isAsciiDigit c = true) : digits.count '.' = 0 := by
  apply List.count_eq_zero_of_not_mem
  intro point
  exact absurd (isDigits '.' point) (by decide)

theorem isDecimal_digitsOf {sign : List Char} (isSign : IsSign sign) (number : Nat) :
    IsDecimal sign (Decimal.digitsOf number) where
  sign := isSign
  chars := fun c member => isDecimalChar_of_digit (digitsOf_digits number c member)
  digit := exists_digit number
  points := by
    rw [count_point_of_digits (digitsOf_digits number)]
    exact Nat.zero_le 1

theorem integer_decimal (number : Int) :
    ∃ sign size, IsDecimal sign size ∧ (toString number).toList = sign ++ size := by
  rw [Int.toString_eq_repr, Int.repr_eq_if]
  by_cases positive : 0 ≤ number
  · rw [if_pos positive, Nat.toList_repr]
    exact ⟨[], _, isDecimal_digitsOf (Or.inl rfl) _, rfl⟩
  · rw [if_neg positive, String.toList_append, Nat.toList_repr]
    exact ⟨['-'], _, isDecimal_digitsOf (Or.inr (Or.inr rfl)) _, rfl⟩

theorem isBare_integer (number : Int) : IsBare (toString number).toList := by
  obtain ⟨sign, size, decimal, same⟩ := integer_decimal number
  exact same ▸ decimal.isBare

private theorem zeros_digits (count : Nat) :
    ∀ c, c ∈ Decimal.zeros count → Text.isAsciiDigit c = true := by
  intro c member
  rw [List.eq_of_mem_replicate member]
  rfl

private theorem positional_chars (written : Decimal.Digits) :
    (∀ c, c ∈ Decimal.positional written → isDecimalChar c = true) ∧
      ∃ c, c ∈ Decimal.positional written ∧ Text.isAsciiDigit c = true := by
  have chars (c : Char) (found : c ∈ Decimal.digitsOf written.digits) : isDecimalChar c = true :=
    isDecimalChar_of_digit (digitsOf_digits written.digits c found)
  have zeros (count : Nat) (c : Char) (found : c ∈ Decimal.zeros count) :
      isDecimalChar c = true := isDecimalChar_of_digit (zeros_digits count c found)
  obtain ⟨digit, member, isDigit⟩ := exists_digit written.digits
  rw [Decimal.positional]
  by_cases whole : 0 ≤ written.exponent
  · simp only [if_pos whole]
    refine ⟨?_, digit, List.mem_append_left _ member, isDigit⟩
    intro c found
    rcases List.mem_append.mp found with here | behind
    · exact chars c here
    · exact zeros _ c behind
  · simp only [if_neg whole]
    by_cases inside : (-written.exponent).toNat < (Decimal.digitsOf written.digits).length
    · rw [if_pos inside]
      constructor
      · intro c found
        rcases List.mem_append.mp found with here | behind
        · exact chars c (List.mem_of_mem_take here)
        · rcases List.mem_cons.mp behind with point | fraction
          · rw [point]
            rfl
          · exact chars c (List.mem_of_mem_drop fraction)
      · rw [← List.take_append_drop ((Decimal.digitsOf written.digits).length
          - (-written.exponent).toNat) (Decimal.digitsOf written.digits)] at member
        rcases List.mem_append.mp member with here | behind
        · exact ⟨digit, List.mem_append_left _ here, isDigit⟩
        · exact ⟨digit, List.mem_append_right _ (List.mem_cons_of_mem _ behind), isDigit⟩
    · rw [if_neg inside]
      refine ⟨?_, '0', List.mem_cons_self, rfl⟩
      intro c found
      rcases List.mem_cons.mp found with zero | found
      · rw [zero]
        rfl
      rcases List.mem_cons.mp found with point | found
      · rw [point]
        rfl
      rcases List.mem_append.mp found with here | behind
      · exact zeros _ c here
      · exact chars c behind

private theorem positional_points (written : Decimal.Digits) :
    (Decimal.positional written).count '.' ≤ 1 := by
  have digits := digitsOf_digits written.digits
  have zeros (count : Nat) : (Decimal.zeros count).count '.' = 0 :=
    count_point_of_digits (zeros_digits count)
  rw [Decimal.positional]
  by_cases whole : 0 ≤ written.exponent
  · simp only [if_pos whole, List.count_append, zeros, count_point_of_digits digits]
    exact Nat.zero_le 1
  · simp only [if_neg whole]
    split
    · have front (place : Nat) :
          ((Decimal.digitsOf written.digits).take place).count '.' = 0 :=
        count_point_of_digits fun c member => digits c (List.mem_of_mem_take member)
      have back (place : Nat) :
          ((Decimal.digitsOf written.digits).drop place).count '.' = 0 :=
        count_point_of_digits fun c member => digits c (List.mem_of_mem_drop member)
      simp only [List.count_append, List.count_cons_self, front, back]
      omega
    · simp [List.count_append, zeros, count_point_of_digits digits]

theorem plain_decimal (number : Float) (finite : Decimal.isFinite number = true) :
    ∃ sign size, IsDecimal sign size ∧ (Decimal.plain number).toList = sign ++ size := by
  have defined : Decimal.isNaN number = false := by
    rw [Decimal.isFinite, decide_eq_true_eq] at finite
    rw [Decimal.isNaN, decide_eq_false_iff_not]
    omega
  obtain ⟨chars, digit⟩ := positional_chars (Decimal.shortest .up number)
  have points := positional_points (Decimal.shortest .up number)
  rw [Decimal.plain, defined, if_neg Bool.false_ne_true, if_pos finite, Decimal.signed,
    String.toList_ofList]
  by_cases negative : Decimal.isNegative number = true
  · rw [if_pos negative]
    exact ⟨['-'], _, ⟨⟨Or.inr (Or.inr rfl), chars, digit⟩, points⟩, rfl⟩
  · rw [if_neg negative]
    exact ⟨[], _, ⟨⟨Or.inl rfl, chars, digit⟩, points⟩, rfl⟩

theorem isBare_plain (number : Float) (finite : Decimal.isFinite number = true) :
    IsBare (Decimal.plain number).toList := by
  obtain ⟨sign, size, decimal, same⟩ := plain_decimal number finite
  exact same ▸ decimal.isBare

/-! ### Texts that read as numbers -/

private theorem dropSign_append (text : List Char) :
    ∃ sign, sign ++ dropSign text = text ∧ IsSign sign := by
  cases text with
  | nil => exact ⟨[], rfl, Or.inl rfl⟩
  | cons c rest =>
      rw [dropSign]
      by_cases isSign : c = '+' || c = '-'
      · rw [if_pos isSign]
        refine ⟨[c], rfl, ?_⟩
        rw [Bool.or_eq_true, decide_eq_true_eq, decide_eq_true_eq] at isSign
        rcases isSign with plus | minus
        · exact Or.inr (Or.inl (congrArg (fun c => [c]) plus))
        · exact Or.inr (Or.inr (congrArg (fun c => [c]) minus))
      · rw [if_neg isSign]
        exact ⟨[], rfl, Or.inl rfl⟩

private theorem mantissa_append (seenPoint : Bool) (text : List Char) :
    ∃ passed, passed ++ (mantissa seenPoint text).2 = text ∧
      (∀ c, c ∈ passed → isDecimalChar c = true) ∧
      passed.count '.' + seenPoint.toNat ≤ 1 ∧
      ((mantissa seenPoint text).1 ≠ 0 → ∃ c, c ∈ passed ∧ Text.isAsciiDigit c = true) := by
  have nothing : ([] : List Char).count '.' + seenPoint.toNat ≤ 1 := by
    cases seenPoint <;> decide
  induction text generalizing seenPoint with
  | nil =>
      exact ⟨[], rfl, (fun c none => by cases none), nothing,
        fun impossible => (impossible rfl).elim⟩
  | cons c rest inductionHypothesis =>
      rw [mantissa]
      by_cases digit : Text.isAsciiDigit c = true
      · obtain ⟨passed, same, chars, points, _⟩ := inductionHypothesis seenPoint nothing
        have noPoint : c ≠ '.' := by
          rintro rfl
          exact absurd digit (by decide)
        simp only [if_pos digit]
        refine ⟨c :: passed, congrArg (c :: ·) same, ?_, ?_,
          fun _ => ⟨c, List.mem_cons_self, digit⟩⟩
        · intro other member
          rcases List.mem_cons.mp member with here | behind
          · rw [here]
            exact isDecimalChar_of_digit digit
          · exact chars other behind
        · rwa [List.count_cons_of_ne noPoint]
      · simp only [if_neg digit]
        by_cases point : (c = '.' && !seenPoint) = true
        · rw [if_pos point]
          obtain ⟨passed, same, chars, points, digits⟩ :=
            inductionHypothesis true (by decide)
          rw [Bool.and_eq_true, decide_eq_true_eq, Bool.not_eq_true'] at point
          refine ⟨c :: passed, congrArg (c :: ·) same, ?_, ?_, ?_⟩
          · intro other member
            rcases List.mem_cons.mp member with here | behind
            · rw [here, point.1]
              rfl
            · exact chars other behind
          · rw [point.1, point.2, List.count_cons_self]
            exact points
          · intro some
            obtain ⟨found, member, isDigit⟩ := digits some
            exact ⟨found, List.mem_cons_of_mem c member, isDigit⟩
        · rw [if_neg point]
          exact ⟨[], rfl, (fun c none => by cases none), nothing,
            fun impossible => (impossible rfl).elim⟩

private theorem isExponent_form {text : List Char} (exponent : isExponent text = true) :
    IsExponent text := by
  cases text with
  | nil => exact Or.inl rfl
  | cons mark rest =>
      rw [isExponent, Bool.and_eq_true, Bool.and_eq_true, Bool.or_eq_true, decide_eq_true_eq,
        decide_eq_true_eq, Bool.not_eq_true', List.isEmpty_eq_false_iff] at exponent
      obtain ⟨⟨marks, filled⟩, digits⟩ := exponent
      obtain ⟨sign, same, isSign⟩ := dropSign_append rest
      exact Or.inr ⟨mark, sign, dropSign rest, congrArg (mark :: ·) same.symm, marks, isSign,
        filled, List.all_eq_true.mp digits⟩

theorem IsExponent.chars {exponent : List Char} (isExponent : IsExponent exponent) :
    ∀ c, c ∈ exponent → isBareChar c = true := by
  rcases isExponent with rfl | ⟨mark, sign, digits, rfl, marks, isSign, _, isDigits⟩
  · intro c none
    cases none
  · intro c member
    rcases List.mem_cons.mp member with here | behind
    · rcases marks with small | large
      · rw [here, small]
        rfl
      · rw [here, large]
        rfl
    · rcases List.mem_append.mp behind with early | late
      · exact isSign.eq_of_mem early (by decide) (by decide)
      · exact isBareChar_of_digit (isDigits c late)

theorem isNumeric_form {text : List Char} (numeric : isNumeric text = true) :
    ∃ front sign size exponent back, text = front ++ (sign ++ size ++ exponent) ++ back ∧
      (∀ c, c ∈ front → Text.isBlank c = true) ∧ IsDecimal sign size ∧ IsExponent exponent ∧
      ∀ c, c ∈ back → Text.isBlank c = true := by
  rw [isNumeric, isTrimmedNumber] at numeric
  obtain ⟨front, back, same, blankFront, blankBack⟩ := Text.trim_append text
  obtain ⟨sign, sameSigned, isSign⟩ := dropSign_append (Text.trim text)
  obtain ⟨size, sameSize, chars, points, digits⟩ :=
    mantissa_append false (dropSign (Text.trim text))
  simp only [ne_eq, decide_not, Bool.and_eq_true, Bool.not_eq_true', decide_eq_false_iff_not]
    at numeric
  obtain ⟨some, exponent⟩ := numeric
  refine ⟨front, sign, size, _, back, ?_, blankFront, ⟨⟨isSign, chars, digits some⟩, points⟩,
    isExponent_form exponent, blankBack⟩
  rw [List.append_assoc sign, sameSize, sameSigned]
  exact same

theorem isBare_of_isNumeric {text : List Char} (numeric : isNumeric text = true) :
    IsBare text := by
  obtain ⟨front, sign, size, exponent, back, rfl, blankFront, decimal, isExponent, blankBack⟩ :=
    isNumeric_form numeric
  have number := decimal.isBare
  obtain ⟨digit, member, visible⟩ := number.visible
  refine ⟨?_, digit, List.mem_append_left back (List.mem_append_right front
    (List.mem_append_left exponent member)), visible⟩
  intro c found
  rcases List.mem_append.mp found with found | behind
  · rcases List.mem_append.mp found with before | found
    · exact isBareChar_of_blank (blankFront c before)
    rcases List.mem_append.mp found with early | late
    · exact number.chars c early
    · exact isExponent.chars c late
  · exact isBareChar_of_blank (blankBack c behind)

end Literal

namespace Binding

/-- A text whose quotes are escaped or that has none; what reads as a number is not
quoted at all. -/
def IsSafe (policy : LiteralPolicy) : Binding → Prop
  | text value =>
      policy = .escapeQuotes ∨ Literal.isNumeric value.toList = true ∨ '\'' ∉ value.toList
  | _ => True

theorem plain_unquoted (number : Float) (infinite : Decimal.isFinite number = false) :
    '\'' ∉ (Decimal.plain number).toList := by
  rw [Decimal.plain]
  by_cases undefined : Decimal.isNaN number = true
  · rw [if_pos undefined]
    decide
  · rw [if_neg undefined, infinite, if_neg Bool.false_ne_true, Decimal.signed,
      String.toList_ofList]
    cases Decimal.isNegative number with
    | true => decide
    | false => decide

theorem literal_of_isNumeric {value : String} (numeric : Literal.isNumeric value.toList = true)
    (policy : LiteralPolicy) : (text value).literal policy = value.toList := by
  cases policy <;> exact if_pos numeric

/-- A literal is bare, or it stands in quotes with the quotes inside in pairs. -/
theorem literal_form {policy : LiteralPolicy} {binding : Binding}
    (safe : binding.IsSafe policy) :
    Literal.IsBare (binding.literal policy) ∨
      ∃ content, Literal.Paired content ∧ binding.literal policy = Literal.quote content := by
  cases binding with
  | integer number => exact Or.inl (Literal.isBare_integer number.toInt)
  | flag value =>
      left
      cases value with
      | true =>
          exact .of_digit (fun c member => by rw [List.mem_singleton.mp member]; rfl)
            List.mem_cons_self rfl
      | false =>
          exact .of_digit (fun c member => by rw [List.mem_singleton.mp member]; rfl)
            List.mem_cons_self rfl
  | real number =>
      rw [literal]
      cases finite : Decimal.isFinite number with
      | true =>
          left
          exact Literal.isBare_plain number finite
      | false =>
          right
          exact ⟨_, Literal.paired_of_absent (plain_unquoted number finite), rfl⟩
  | text value =>
      cases numeric : Literal.isNumeric value.toList with
      | true =>
          left
          rw [literal_of_isNumeric numeric]
          exact Literal.isBare_of_isNumeric numeric
      | false =>
          right
          cases policy with
          | escapeQuotes =>
              rw [literal, numeric, if_neg Bool.false_ne_true]
              exact ⟨_, Literal.paired_escape value.toList, rfl⟩
          | verbatim =>
              rw [literal, numeric, if_neg Bool.false_ne_true]
              rcases safe with impossible | impossible | absent
              · cases impossible
              · rw [numeric] at impossible
                cases impossible
              · exact ⟨_, Literal.paired_of_absent absent, rfl⟩

end Binding

end RemoteQuery
