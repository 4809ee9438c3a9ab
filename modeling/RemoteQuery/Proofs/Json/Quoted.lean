import Mathlib.Data.List.Forall2
import RemoteQuery.Json.Quoted
set_option autoImplicit false

/-! Quoted JSON text is read back.  An escaped character is read as itself, or, for a
control character without a short escape, as its code.  No code that is written is half of
a pair, so the characters of what has been read are those that were written. -/

namespace RemoteQuery.Json

/-! ### One character -/

private theorem hexValue?_hexDigit :
    ∀ value, value < 16 → hexValue? (hexDigit value) = some value := by
  decide

private theorem readUnits_close (rest : List Char) : readUnits ('"' :: rest) = some ([], rest) := by
  rw [readUnits]

private theorem readUnits_short {letter plain : Char} (known : shortEscape? letter = some plain)
    (rest : List Char) :
    readUnits ('\\' :: letter :: rest)
      = (readUnits rest).map fun (units, behind) => (.char plain :: units, behind) := by
  have notCode : letter ≠ 'u' := by
    intro same
    rw [same, show shortEscape? 'u' = none by decide] at known
    cases known
  rw [readUnits, known]
  exact fun _ _ _ _ _ same => (notCode same).elim

private theorem readUnits_code {y z : Nat} (front : y < 16) (back : z < 16) (rest : List Char) :
    readUnits ('\\' :: 'u' :: '0' :: '0' :: hexDigit y :: hexDigit z :: rest)
      = (readUnits rest).map fun (units, behind) => (.code (y * 16 + z) :: units, behind) := by
  rw [readUnits, show hexValue? '0' = some 0 by decide, hexValue?_hexDigit y front,
    hexValue?_hexDigit z back]
  simp only [Nat.zero_mul, Nat.zero_add]

private theorem readUnits_plain {c : Char} (visible : 32 ≤ c.toNat) (noMark : c ≠ '"')
    (noEscape : c ≠ '\\') (rest : List Char) :
    readUnits (c :: rest)
      = (readUnits rest).map fun (units, behind) => (.char c :: units, behind) := by
  have stands : (decide (c.toNat < 32) || decide (c = '\\')) = false := by
    rw [decide_eq_false (Nat.not_lt.mpr visible), decide_eq_false noEscape]
    rfl
  rw [readUnits, stands, if_neg Bool.false_ne_true]
  · exact noMark
  · exact fun _ _ _ _ _ same _ => noEscape same
  · exact fun _ _ same _ => noEscape same

inductive Escaped (c : Char) : List Char → Prop where
  | short (letter : Char) (known : shortEscape? letter = some c) : Escaped c ['\\', letter]
  | code (control : c.toNat < 32) : Escaped c
      ['\\', 'u', '0', '0', hexDigit (c.toNat / 16), hexDigit (c.toNat % 16)]
  | plain (visible : 32 ≤ c.toNat) (noMark : c ≠ '"') (noEscape : c ≠ '\\') : Escaped c [c]

private theorem escapeChar_escaped (c : Char) : Escaped c (escapeChar c) := by
  by_cases known : c ∈ ['"', '\\', '\n', '\r', '\t', '\x08', '\x0c']
  · simp only [List.mem_cons, List.not_mem_nil, or_false] at known
    rcases known with rfl | rfl | rfl | rfl | rfl | rfl | rfl <;> exact .short _ rfl
  · simp only [List.mem_cons, List.not_mem_nil, or_false, not_or] at known
    obtain ⟨mark, escape, lineFeed, carriageReturn, tab, backspace, formFeed⟩ := known
    rw [escapeChar, if_neg mark, if_neg escape, if_neg lineFeed, if_neg carriageReturn, if_neg tab,
      if_neg backspace, if_neg formFeed]
    by_cases control : c.toNat < 32
    · rw [if_pos control]
      exact .code control
    · rw [if_neg control]
      exact .plain (Nat.not_lt.mp control) mark escape

/-- A unit stands for a character: as itself, or by the code of a control character. -/
inductive StandsFor : Unit16 → Char → Prop where
  | char (c : Char) : StandsFor (.char c) c
  | code (c : Char) (control : c.toNat < 32) : StandsFor (.code c.toNat) c

theorem exists_unit (c : Char) : ∃ unit, StandsFor unit c ∧ ∀ rest,
    readUnits (escapeChar c ++ rest)
      = (readUnits rest).map fun (units, behind) => (unit :: units, behind) := by
  have escaped := escapeChar_escaped c
  generalize escapeChar c = form at escaped
  cases escaped with
  | short letter known => exact ⟨_, .char c, readUnits_short known⟩
  | code control =>
      have whole : c.toNat / 16 * 16 + c.toNat % 16 = c.toNat := by omega
      have coded := @readUnits_code (c.toNat / 16) (c.toNat % 16) (by omega) (by omega)
      rw [whole] at coded
      exact ⟨_, .code c control, coded⟩
  | plain visible noMark noEscape => exact ⟨_, .char c, readUnits_plain visible noMark noEscape⟩

/-! ### Whole texts -/

private theorem exists_units (text rest : List Char) : ∃ units, List.Forall₂ StandsFor units text ∧
    readUnits (escapeText text ++ '"' :: rest) = some (units, rest) := by
  induction text with
  | nil => exact ⟨[], .nil, readUnits_close rest⟩
  | cons c text inductionHypothesis =>
      obtain ⟨units, stand, read⟩ := inductionHypothesis
      obtain ⟨unit, stands, first⟩ := exists_unit c
      refine ⟨unit :: units, .cons stands stand, ?_⟩
      rw [escapeText, List.append_assoc, first, read]
      rfl

/-- The code of a control character is not half of a pair. -/
theorem charsOfUnits_code {value : Nat} (control : value < 32) (rest : List Unit16) :
    charsOfUnits (.code value :: rest) = (charsOfUnits rest).map (Char.ofNat value :: ·) := by
  have notLeading : isLeading value = false := by
    rw [isLeading, decide_eq_false (by omega), Bool.false_and]
  have notTrailing : isTrailing value = false := by
    rw [isTrailing, decide_eq_false (by omega), Bool.false_and]
  cases rest with
  | nil =>
      simp only [charsOfUnits, notLeading, notTrailing, Bool.or_self, Bool.false_eq_true,
        if_false]
  | cons unit rest =>
      cases unit with
      | char c =>
          simp only [charsOfUnits, notLeading, notTrailing, Bool.or_self, Bool.false_eq_true,
            if_false]
      | code next =>
          rw [charsOfUnits, notLeading, notTrailing, Bool.false_and, Bool.or_self,
            if_neg Bool.false_ne_true, if_neg Bool.false_ne_true]

private theorem charsOfUnits_of_stands {units : List Unit16} {text : List Char}
    (stand : List.Forall₂ StandsFor units text) : charsOfUnits units = some text := by
  induction stand with
  | nil => rfl
  | cons stands _ inductionHypothesis =>
      cases stands with
      | char c =>
          rw [charsOfUnits, inductionHypothesis]
          rfl
      | code c control =>
          rw [charsOfUnits_code control, inductionHypothesis, Char.ofNat_toNat]
          rfl

theorem exists_units_quoted (text rest : List Char) : ∃ units,
    readUnits (escapeText text ++ '"' :: rest) = some (units, rest) ∧
      charsOfUnits units = some text := by
  obtain ⟨units, stand, read⟩ := exists_units text rest
  exact ⟨units, read, charsOfUnits_of_stands stand⟩

end RemoteQuery.Json
