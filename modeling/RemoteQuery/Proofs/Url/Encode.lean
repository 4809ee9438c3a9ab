import RemoteQuery.Proofs.Text.Utf8
import RemoteQuery.Url.Encode
set_option autoImplicit false

/-! Percent-encoding read back.  Where percent signs are encoded, decoding an encoded text
gives the bytes of the text, whatever stands behind it. -/

namespace RemoteQuery.Url

private theorem hexValue?_upperHexDigit {value : Nat} (digit : value < 16) :
    Json.hexValue? (upperHexDigit value) = some value := by
  have every : ∀ value : Fin 16, Json.hexValue? (upperHexDigit value) = some value.val := by
    decide
  exact every ⟨value, digit⟩

private theorem decodeAfter_skip (skipped : List Char) (rest : List Char) :
    decodeAfter skipped.length (skipped ++ rest) = decodeAfter 0 rest := by
  induction skipped with
  | nil => rfl
  | cons c others inductionHypothesis =>
      rw [List.length_cons, List.cons_append, decodeAfter]
      exact inductionHypothesis

private theorem decodeAfter_encodeByte (byte : UInt8) (rest : List Char) :
    decodeAfter 0 (encodeByte byte ++ rest) = byte :: decodeAfter 0 rest := by
  have high : byte.toNat / 16 < 16 := by
    have bound := byte.toNat_lt
    omega
  have low : byte.toNat % 16 < 16 := Nat.mod_lt _ (by decide)
  have whole : UInt8.ofNat (byte.toNat / 16 * 16 + byte.toNat % 16) = byte := by
    rw [Nat.div_add_mod', UInt8.ofNat_toNat]
  have passed := decodeAfter_skip
    [upperHexDigit (byte.toNat / 16), upperHexDigit (byte.toNat % 16)] rest
  simp only [List.cons_append, List.nil_append] at passed
  rw [encodeByte, List.cons_append, List.cons_append, List.cons_append, List.nil_append,
    decodeAfter, if_pos rfl]
  simp only [hexValue?_upperHexDigit high, hexValue?_upperHexDigit low]
  rw [whole]
  exact congrArg (byte :: ·) passed

private theorem decodeAfter_encodeBytes (bytes : List UInt8) (rest : List Char) :
    decodeAfter 0 (bytes.flatMap encodeByte ++ rest) = bytes ++ decodeAfter 0 rest := by
  induction bytes with
  | nil => rfl
  | cons byte others inductionHypothesis =>
      rw [List.flatMap_cons, List.append_assoc, decodeAfter_encodeByte, inductionHypothesis]
      rfl

theorem decodeAfter_other {c : Char} (rest : List Char) (other : c ≠ '%') :
    decodeAfter 0 (c :: rest) = String.utf8EncodeChar c ++ decodeAfter 0 rest := by
  have step : decodeAfter 0 (c :: rest)
      = Text.encode (String.singleton c) ++ decodeAfter 0 rest := by
    rw [decodeAfter.eq_def]
    exact if_neg other
  rw [step, Text.encode_singleton]

variable {marked : Char → Bool}

private theorem decodeAfter_encodeChar (percent : marked '%' = true) (c : Char) (rest : List Char) :
    decodeAfter 0 (encodeChar marked c ++ rest)
      = String.utf8EncodeChar c ++ decodeAfter 0 rest := by
  rw [encodeChar]
  split
  · rw [decodeAfter_encodeBytes, Text.encode_singleton]
  · rename_i written
    apply decodeAfter_other
    intro same
    rw [same, percent, Bool.or_true] at written
    exact written rfl

theorem decodeAfter_encode (percent : marked '%' = true) (text rest : List Char) :
    decodeAfter 0 (encode marked text ++ rest) = Text.bytesOf text ++ decodeAfter 0 rest := by
  induction text with
  | nil => rfl
  | cons c others inductionHypothesis =>
      rw [encode, List.flatMap_cons, List.append_assoc, decodeAfter_encodeChar percent,
        Text.bytesOf_cons, List.append_assoc]
      exact congrArg (String.utf8EncodeChar c ++ ·) inductionHypothesis

theorem decode_encode (percent : marked '%' = true) (text : List Char) :
    decode (encode marked text) = Text.bytesOf text := by
  have alone := decodeAfter_encode percent text []
  rw [List.append_nil] at alone
  rw [decode, alone, decodeAfter, List.append_nil]

theorem encode_injective (percent : marked '%' = true) {first second : List Char}
    (same : encode marked first = encode marked second) : first = second := by
  have bytes := congrArg decode same
  rw [decode_encode percent, decode_encode percent] at bytes
  exact Text.bytesOf_injective bytes

/-! ### The characters of an encoded text -/

def isCode (c : Char) : Bool := "%0123456789ABCDEF".toList.contains c

private theorem isCode_encodeByte {byte : UInt8} {c : Char} (member : c ∈ encodeByte byte) :
    isCode c = true := by
  have digit : ∀ value : Fin 16, isCode (upperHexDigit value) = true := by decide
  have high : byte.toNat / 16 < 16 := by
    have bound := byte.toNat_lt
    omega
  have low : byte.toNat % 16 < 16 := Nat.mod_lt _ (by decide)
  simp only [encodeByte, List.mem_cons, List.not_mem_nil, or_false] at member
  rcases member with rfl | rfl | rfl
  · rfl
  · exact digit ⟨_, high⟩
  · exact digit ⟨_, low⟩

/-- An encoded text holds codes, and visible characters of the text that are not marked. -/
theorem mem_encode {text : List Char} {c : Char} (member : c ∈ encode marked text) :
    isCode c = true ∨ (c ∈ text ∧ marked c = false ∧ 32 ≤ c.toNat ∧ c.toNat ≤ 126) := by
  obtain ⟨source, inText, written⟩ := List.mem_flatMap.mp member
  rw [encodeChar] at written
  split at written
  · obtain ⟨byte, _, code⟩ := List.mem_flatMap.mp written
    exact Or.inl (isCode_encodeByte code)
  · rename_i plain
    rw [List.mem_singleton] at written
    subst written
    simp only [Bool.or_eq_true, decide_eq_true_eq, not_or, Nat.not_lt] at plain
    exact Or.inr ⟨inText, Bool.eq_false_iff.mpr plain.2, plain.1.1, plain.1.2⟩

theorem not_mem_encode {text : List Char} {c : Char} (noCode : isCode c = false)
    (hidden : c ∈ text → marked c = true) : c ∉ encode marked text := by
  intro member
  rcases mem_encode member with code | ⟨inText, plain, _⟩
  · rw [noCode] at code
    cases code
  · rw [hidden inText] at plain
    cases plain

end RemoteQuery.Url
