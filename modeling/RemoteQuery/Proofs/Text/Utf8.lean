import RemoteQuery.Text.Utf8
set_option autoImplicit false

/-! Texts as bytes and back.  The bytes of a text are those of its characters one after
the other.  A character below 128 is its own byte, and no byte of any other character is
below 128, so that a byte of that range is found exactly where its character stands. -/

namespace RemoteQuery.Text

private theorem toList_loop (bytes : ByteArray) (start : Nat) (passed : List UInt8) :
    ByteArray.toList.loop bytes start passed
      = passed.reverse ++ bytes.data.toList.drop start := by
  fun_induction ByteArray.toList.loop bytes start passed with
  | case1 start passed inside inductionHypothesis =>
      have here : start < bytes.data.toList.length := inside
      have next : bytes.get! start = bytes.data.toList[start] :=
        getElem!_pos bytes.data start inside
      rw [inductionHypothesis, List.drop_eq_getElem_cons here, next, List.reverse_cons,
        List.append_assoc]
      rfl
  | case2 start passed outside =>
      have none : bytes.data.toList.drop start = [] :=
        List.drop_eq_nil_of_le (Nat.le_of_not_lt outside)
      rw [none, List.append_nil]

private theorem encode_eq_data (text : String) : encode text = text.toByteArray.data.toList :=
  toList_loop text.toByteArray 0 []

def bytesOf (text : List Char) : List UInt8 := text.flatMap String.utf8EncodeChar

theorem encode_eq_bytesOf (text : String) : encode text = bytesOf text.toList := by
  have same : text.toByteArray = text.toList.utf8Encode := by
    rw [← String.toByteArray_ofList, String.ofList_toList]
  rw [encode_eq_data, same]
  exact List.toList_data_toByteArray

theorem encode_ofList (text : List Char) : encode (String.ofList text) = bytesOf text := by
  rw [encode_eq_bytesOf, String.toList_ofList]

theorem bytesOf_append (first second : List Char) :
    bytesOf (first ++ second) = bytesOf first ++ bytesOf second :=
  List.flatMap_append

theorem bytesOf_cons (c : Char) (rest : List Char) :
    bytesOf (c :: rest) = String.utf8EncodeChar c ++ bytesOf rest :=
  List.flatMap_cons

theorem encode_singleton (c : Char) : encode (String.singleton c) = String.utf8EncodeChar c := by
  rw [encode_eq_bytesOf, String.toList_singleton, bytesOf_cons]
  exact List.append_nil _

theorem decode?_encode (text : String) : decode? (encode text) = some text := by
  have same : (⟨(encode text).toArray⟩ : ByteArray) = text.toByteArray := by
    rw [encode_eq_data]
  rw [decode?, same]
  exact dif_pos text.isValidUTF8

/-- Bytes that encode some text. -/
def IsUtf8 (bytes : List UInt8) : Prop := ∃ text, encode text = bytes

theorem encode_of_decode? {bytes : List UInt8} {text : String}
    (decoded : decode? bytes = some text) : encode text = bytes := by
  rw [decode?, String.fromUTF8?] at decoded
  split at decoded
  · rename_i valid
    have same : text.toByteArray = ⟨bytes.toArray⟩ := by
      rw [← Option.some.inj decoded]
      rfl
    rw [encode_eq_data, same]
  · cases decoded

theorem decode?_eq_some_iff {bytes : List UInt8} {text : String} :
    decode? bytes = some text ↔ encode text = bytes := by
  constructor
  · exact encode_of_decode?
  · rintro rfl
    exact decode?_encode text

theorem decode?_eq_none_iff {bytes : List UInt8} : decode? bytes = none ↔ ¬ IsUtf8 bytes := by
  rw [Option.eq_none_iff_forall_ne_some, IsUtf8, not_exists]
  exact forall_congr' fun text => not_congr decode?_eq_some_iff

theorem bytesOf_injective {first second : List Char} (same : bytesOf first = bytesOf second) :
    first = second := by
  have texts := congrArg decode? same
  rw [← encode_ofList, ← encode_ofList, decode?_encode, decode?_encode] at texts
  exact String.ofList_injective (Option.some.inj texts)

/-! ### Single characters -/

private theorem utf8EncodeChar_of_small {c : Char} (small : c.toNat < 128) :
    String.utf8EncodeChar c = [UInt8.ofNat c.toNat] :=
  if_pos (Nat.le_of_lt_succ small)

private theorem high_of_add (value : Nat) {size base : Nat} (low : 128 ≤ base)
    (fits : size + base ≤ 256) (room : 0 < size) :
    128 ≤ (UInt8.ofNat (value % size + base)).toNat := by
  have below : value % size < size := Nat.mod_lt value room
  have kept : (value % size + base) % 256 = value % size + base := Nat.mod_eq_of_lt (by omega)
  rw [UInt8.toNat_ofNat', kept]
  omega

private theorem utf8EncodeChar_of_large {c : Char} (large : 128 ≤ c.toNat) :
    ∀ byte, byte ∈ String.utf8EncodeChar c → 128 ≤ byte.toNat := by
  have notSmall : ¬ c.val.toNat ≤ 127 := Nat.not_le_of_lt large
  intro byte member
  rw [String.utf8EncodeChar] at member
  simp only [if_neg notSmall] at member
  split at member
  · simp only [List.mem_cons, List.not_mem_nil, or_false] at member
    rcases member with same | same <;> rw [same] <;>
      exact high_of_add _ (by decide) (by decide) (by decide)
  · split at member
    · simp only [List.mem_cons, List.not_mem_nil, or_false] at member
      rcases member with same | same | same <;> rw [same] <;>
        exact high_of_add _ (by decide) (by decide) (by decide)
    · simp only [List.mem_cons, List.not_mem_nil, or_false] at member
      rcases member with same | same | same | same <;> rw [same] <;>
        exact high_of_add _ (by decide) (by decide) (by decide)

/-- A byte below 128 comes from its own character only. -/
theorem not_mem_utf8EncodeChar {c other : Char} (small : other.toNat < 128)
    (different : c ≠ other) : UInt8.ofNat other.toNat ∉ String.utf8EncodeChar c := by
  have value : (UInt8.ofNat other.toNat).toNat = other.toNat := by
    rw [UInt8.toNat_ofNat', Nat.mod_eq_of_lt (by omega)]
  intro member
  by_cases low : c.toNat < 128
  · rw [utf8EncodeChar_of_small low, List.mem_singleton] at member
    have sameValue := congrArg UInt8.toNat member
    rw [value, UInt8.toNat_ofNat', Nat.mod_eq_of_lt (by omega)] at sameValue
    exact different (Char.ext (UInt32.toNat_inj.mp sameValue.symm))
  · have high := utf8EncodeChar_of_large (Nat.le_of_not_lt low) _ member
    rw [value] at high
    omega

end RemoteQuery.Text
