import RemoteQuery.Text.Case
set_option autoImplicit false

/-! Lower case of characters and texts, and what can be found in a text in lower case.  An ASCII
character has its lower-case form wherever it stands.  Of all other characters only two have an
ASCII character in theirs: the Kelvin sign becomes a `k`, and the capital dotted i an `i` with a
mark behind it that no ASCII text has.  A token without a `k` that does not end with an `i` is
therefore found in the lower-case form of a text only where it stands in the text itself, up to
the case of its ASCII letters. -/

namespace RemoteQuery.Text

private theorem toNat_toLower (c : Char) :
    c.toLower.toNat = if 0x41 ≤ c.toNat ∧ c.toNat ≤ 0x5A then c.toNat + 0x20 else c.toNat := by
  have isCapital : (c.val ≥ 'A'.val ∧ c.val ≤ 'Z'.val) ↔ 0x41 ≤ c.toNat ∧ c.toNat ≤ 0x5A := by
    simp only [ge_iff_le, UInt32.le_iff_toNat_le]
    rfl
  unfold Char.toLower
  by_cases capital : 0x41 ≤ c.toNat ∧ c.toNat ≤ 0x5A
  · rw [dif_pos (isCapital.mpr capital), if_pos capital]
    have small : c.val.toNat ≤ 0x5A := capital.2
    change (c.val + 0x20).toNat = c.val.toNat + 0x20
    rw [UInt32.toNat_add]
    change (c.val.toNat + 0x20) % 4294967296 = _
    omega
  · rw [dif_neg (mt isCapital.mp capital), if_neg capital]

private theorem toNat_toUpper (c : Char) :
    c.toUpper.toNat = if 0x61 ≤ c.toNat ∧ c.toNat ≤ 0x7A then c.toNat - 0x20 else c.toNat := by
  have isSmall : ('a'.val ≤ c.val ∧ c.val ≤ 'z'.val) ↔ 0x61 ≤ c.toNat ∧ c.toNat ≤ 0x7A := by
    simp only [UInt32.le_iff_toNat_le]
    rfl
  unfold Char.toUpper
  by_cases small : 0x61 ≤ c.toNat ∧ c.toNat ≤ 0x7A
  · rw [dif_pos (isSmall.mpr small), if_pos small]
    have bounds : 0x61 ≤ c.val.toNat ∧ c.val.toNat ≤ 0x7A := small
    change (c.val + 0xFFFFFFE0).toNat = c.val.toNat - 0x20
    rw [UInt32.toNat_add]
    change (c.val.toNat + 4294967264) % 4294967296 = _
    omega
  · rw [dif_neg (mt isSmall.mp small), if_neg small]

theorem toLower_eq_iff (letter c : Char) (uncapital : letter.toNat < 0x41 ∨ 0x5A < letter.toNat) :
    c.toLower = letter ↔ c = letter ∨ c = letter.toUpper := by
  rw [← Char.toNat_inj, ← Char.toNat_inj, ← Char.toNat_inj, toNat_toLower, toNat_toUpper]
  split <;> split <;> omega

/-! ### Forms of single characters -/

/-- The lower-case form of a character, with what it can bring into an ASCII text. -/
inductive FormOf (c : Char) : List Char → Prop where
  | plain (small : c.toNat < 0x80) : FormOf c [c.toLower]
  | dotted : FormOf c ['i', '\u0307']
  | foreign (form : Char) (apart : form = 'k' ∨ 0x80 ≤ form.toNat) : FormOf c [form]

/-- A row of the table stays above ASCII, or is the one of the Kelvin sign, and it stays among
the code points of characters. -/
def IsFarRow (row : Nat × Nat × Nat × Nat) : Prop :=
  row = (0x212A, 0x212A, 1, 0x6B) ∨
    0x80 ≤ row.2.2.2 ∧
      (row.2.2.2 + (row.2.1 - row.1) < 0xD800 ∨
        0xDFFF < row.2.2.2 ∧ row.2.2.2 + (row.2.1 - row.1) < 0x110000)

instance (row : Nat × Nat × Nat × Nat) : Decidable (IsFarRow row) :=
  inferInstanceAs (Decidable (_ ∨ _))

private theorem lowercaseRows_far : ∀ row ∈ lowercaseRows, IsFarRow row := by decide +kernel

private theorem lowercaseRow_far {code form : Nat} (found : lowercaseRow code = some form) :
    Char.ofNat form = 'k' ∨ 0x80 ≤ (Char.ofNat form).toNat := by
  unfold lowercaseRow at found
  obtain ⟨row, searched, formed⟩ := Option.map_eq_some_iff.mp found
  have inRow := List.find?_some searched
  simp only [Bool.and_eq_true, decide_eq_true_eq, beq_iff_eq] at inRow
  rcases lowercaseRows_far row (List.mem_of_find?_eq_some searched) with kelvin | ⟨above, valid⟩
  · subst kelvin
    change 0x6B + (code - 0x212A) = form at formed
    obtain ⟨⟨first, last⟩, _⟩ := inRow
    change 0x212A ≤ code at first
    change code ≤ 0x212A at last
    have same : form = 0x6B := by omega
    rw [same]
    exact Or.inl rfl
  · right
    have isChar : form.isValidChar := by
      unfold Nat.isValidChar
      omega
    rw [Char.ofNat, dif_pos isChar]
    change 0x80 ≤ form
    omega

private theorem lowercaseChar_form (c : Char) : FormOf c (lowercaseChar c) := by
  unfold lowercaseChar
  split
  · rename_i small
    exact .plain small
  · rename_i large
    split
    · exact .dotted
    · split
      · rename_i form found
        exact .foreign _ (lowercaseRow_far found)
      · exact .foreign c (Or.inr (Nat.le_of_not_lt large))

/-! ### Texts -/

/-- What a character becomes depends on its neighbours only if it is a capital sigma, and then
it does not become an ASCII character. -/
theorem lowercaseAfter_cons (before : List Char) (c : Char) (rest : List Char) :
    ∃ form, FormOf c form ∧
      lowercaseAfter before (c :: rest) = form ++ lowercaseAfter (c :: before) rest := by
  rw [lowercaseAfter]
  split
  · exact ⟨_, .foreign _ (Or.inr (by decide)), rfl⟩
  · exact ⟨_, lowercaseChar_form c, rfl⟩

private theorem lowercaseAfter_append (before front rest : List Char) :
    ∃ lowered, lowercaseAfter before (front ++ rest)
      = lowered ++ lowercaseAfter (front.reverse ++ before) rest := by
  induction front generalizing before with
  | nil => exact ⟨[], rfl⟩
  | cons c front inductionHypothesis =>
      obtain ⟨form, _, split⟩ := lowercaseAfter_cons before c (front ++ rest)
      obtain ⟨lowered, rejoined⟩ := inductionHypothesis (c :: before)
      refine ⟨form ++ lowered, ?_⟩
      rw [List.cons_append, split, rejoined, List.append_assoc, List.reverse_cons,
        List.append_assoc]
      rfl

private theorem lowercaseAfter_ascii {found : List Char} (small : ∀ c ∈ found, c.toNat < 0x80)
    (before rest : List Char) :
    lowercaseAfter before (found ++ rest)
      = found.map Char.toLower ++ lowercaseAfter (found.reverse ++ before) rest := by
  induction found generalizing before with
  | nil => rfl
  | cons c found inductionHypothesis =>
      have smallHead := small c (List.mem_cons_self ..)
      have noSigma : isFinalSigma before c (found ++ rest) = false := by
        have different : (c.toNat == 0x3A3) = false := beq_false_of_ne (by omega)
        rw [isFinalSigma, different, Bool.false_and, Bool.false_and]
      have rest := inductionHypothesis
        (fun d member => small d (List.mem_cons_of_mem c member)) (c :: before)
      rw [List.cons_append, lowercaseAfter, noSigma, rest]
      simp [lowercaseChar, smallHead]

/-- A token that is in lower case only where a text has it. -/
structure Steady (token : List Char) : Prop where
  small : ∀ c ∈ token, c.toNat < 0x80 ∧ c ≠ 'k'
  undotted : token.getLast? ≠ some 'i'

theorem Steady.tail {c : Char} {token : List Char} (steady : Steady (c :: token)) :
    Steady token := by
  refine ⟨fun d member => steady.small d (List.mem_cons_of_mem c member), ?_⟩
  intro last
  exact steady.undotted (by rw [List.getLast?_cons, last]; rfl)

private theorem prefix_lowercaseAfter {token : List Char} (steady : Steady token)
    {before text : List Char} (leads : token <+: lowercaseAfter before text) :
    ∃ found, found <+: text ∧ found.map Char.toLower = token := by
  induction text generalizing token before with
  | nil => exact ⟨[], List.nil_prefix, (List.prefix_nil.mp leads).symm⟩
  | cons c rest inductionHypothesis =>
      cases token with
      | nil => exact ⟨[], List.nil_prefix, rfl⟩
      | cons d token =>
          have smallHead := steady.small d (List.mem_cons_self ..)
          obtain ⟨form, isForm, split⟩ := lowercaseAfter_cons before c rest
          rw [split] at leads
          cases isForm with
          | plain small =>
              obtain ⟨same, leads⟩ := List.cons_prefix_cons.mp leads
              obtain ⟨found, isPrefix, lowered⟩ := inductionHypothesis steady.tail leads
              refine ⟨c :: found, List.cons_prefix_cons.mpr ⟨rfl, isPrefix⟩, ?_⟩
              rw [List.map_cons, lowered, same]
          | dotted =>
              obtain ⟨same, marked⟩ := List.cons_prefix_cons.mp leads
              subst same
              cases token with
              | nil => exact (steady.undotted rfl).elim
              | cons e token =>
                  have smallNext := (steady.tail.small e (List.mem_cons_self ..)).1
                  have mark := (List.cons_prefix_cons.mp marked).1
                  subst mark
                  exact absurd smallNext (by decide)
          | foreign form apart =>
              have same := (List.cons_prefix_cons.mp leads).1
              subst same
              rcases apart with kelvin | large
              · exact (smallHead.2 kelvin).elim
              · omega

private theorem infix_of_lowercaseAfter {token : List Char} (steady : Steady token)
    {before text : List Char} (stands : token <:+: lowercaseAfter before text) :
    ∃ found, found <:+: text ∧ found.map Char.toLower = token := by
  induction text generalizing before with
  | nil => exact ⟨[], List.nil_infix, (List.infix_nil.mp stands).symm⟩
  | cons c rest inductionHypothesis =>
      have atHead (leads : token <+: lowercaseAfter before (c :: rest)) :
          ∃ found, found <:+: c :: rest ∧ found.map Char.toLower = token := by
        obtain ⟨found, isPrefix, lowered⟩ := prefix_lowercaseAfter steady leads
        exact ⟨found, isPrefix.isInfix, lowered⟩
      have behind (stands : token <:+: lowercaseAfter (c :: before) rest) :
          ∃ found, found <:+: c :: rest ∧ found.map Char.toLower = token := by
        obtain ⟨found, isInfix, lowered⟩ := inductionHypothesis stands
        exact ⟨found, List.infix_cons isInfix, lowered⟩
      obtain ⟨form, isForm, split⟩ := lowercaseAfter_cons before c rest
      rw [split] at stands atHead
      cases isForm with
      | plain small => exact (List.infix_cons_iff.mp stands).elim atHead behind
      | foreign form apart => exact (List.infix_cons_iff.mp stands).elim atHead behind
      | dotted =>
          rcases List.infix_cons_iff.mp stands with leads | later
          · exact atHead leads
          · rcases List.infix_cons_iff.mp later with marked | stands
            · cases token with
              | nil => exact ⟨[], List.nil_infix, rfl⟩
              | cons d token =>
                  have small := (steady.small d (List.mem_cons_self ..)).1
                  have mark := (List.cons_prefix_cons.mp marked).1
                  subst mark
                  exact absurd small (by decide)
            · exact behind stands

/-- Lower case neither makes nor hides an occurrence of such a token. -/
theorem infix_lowercase_iff {token : List Char} (steady : Steady token) (text : List Char) :
    token <:+: lowercase text ↔ ∃ found, found <:+: text ∧ found.map Char.toLower = token := by
  constructor
  · exact infix_of_lowercaseAfter steady
  · rintro ⟨found, ⟨front, back, rfl⟩, lowered⟩
    have small : ∀ c ∈ found, c.toNat < 0x80 := by
      intro c member
      have smallForm := (steady.small c.toLower (lowered ▸ List.mem_map_of_mem member)).1
      rw [toNat_toLower] at smallForm
      split at smallForm <;> omega
    obtain ⟨before, rejoined⟩ := lowercaseAfter_append [] front (found ++ back)
    rw [List.append_assoc, lowercase, rejoined, lowercaseAfter_ascii small, lowered,
      ← List.append_assoc]
    exact ⟨before, _, rfl⟩

end RemoteQuery.Text
