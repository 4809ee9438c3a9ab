import RemoteQuery.Binding
import RemoteQuery.Proofs.Decimal.Nearest
set_option autoImplicit false

/-! Bindings in JSON.  The forms of a binding are tried in order, so a value is read as the
first form that fits.  No form before its own fits what a binding is written as, and only
numbers that are not finite are lost. -/

namespace RemoteQuery

namespace Json.Value

section First

variable {α : Type} {typeName : String} {form : Value → Decoded α}
  {forms : List (Value → Decoded α)} {value : Value} {content : α}

theorem asFirst_of_fits (fits : form value = .ok content) :
    value.asFirst typeName (form :: forms) = .ok content := by
  rw [asFirst, List.findSome?_cons, fits]
  rfl

private theorem asFirst_of_unfit {mismatch : Mismatch} (unfit : form value = .error mismatch) :
    value.asFirst typeName (form :: forms) = value.asFirst typeName forms := by
  rw [asFirst, List.findSome?_cons, unfit]
  rfl

theorem asFirst_cons_eq_ok_iff :
    value.asFirst typeName (form :: forms) = .ok content ↔
      form value = .ok content ∨
        (∀ other, form value ≠ .ok other) ∧ value.asFirst typeName forms = .ok content := by
  cases told : form value with
  | ok first =>
      rw [asFirst_of_fits told]
      exact ⟨Or.inl, fun found => found.resolve_right fun later => later.1 first rfl⟩
  | error mismatch =>
      rw [asFirst_of_unfit told]
      constructor
      · intro later
        exact Or.inr ⟨nofun, later⟩
      · rintro (impossible | later)
        · cases impossible
        · exact later.2

theorem asFirst_nil_ne_ok : value.asFirst typeName [] ≠ .ok content := nofun

theorem asFirst_eq_error {mismatch : Mismatch}
    (failed : value.asFirst typeName forms = .error mismatch) : mismatch = .noVariant typeName := by
  rw [asFirst] at failed
  split at failed
  · cases failed
  · cases failed
    rfl

theorem map_eq_ok_iff {β : Type} {into : α → β} {told : Decoded α} {final : β} :
    told.map into = .ok final ↔ ∃ content, told = .ok content ∧ into content = final := by
  cases told with
  | error mismatch =>
      constructor
      · intro impossible
        cases impossible
      · rintro ⟨content, impossible, _⟩
        cases impossible
  | ok content =>
      constructor
      · intro same
        exact ⟨content, rfl, Except.ok.inj same⟩
      · rintro ⟨_, same, rfl⟩
        cases same
        rfl

theorem map_ne_ok_iff {β : Type} {into : α → β} {told : Decoded α} :
    (∀ final, told.map into ≠ .ok final) ↔ ∀ content, told ≠ .ok content := by
  constructor
  · intro unfit content fits
    exact unfit (into content) (map_eq_ok_iff.mpr ⟨content, fits, rfl⟩)
  · intro unfit final fits
    obtain ⟨content, told, _⟩ := map_eq_ok_iff.mp fits
    exact unfit content told

end First

/-! ### The forms -/

theorem asWord_eq_ok_iff {value : Value} {word : Int64} :
    value.asWord = .ok word ↔ value = .ofInt word.toInt := by
  constructor
  · intro told
    cases value with
    | number number =>
        cases number with
        | whole size =>
            rw [asWord] at told
            split at told
            · rename_i within
              simp only [Bool.and_eq_true, decide_eq_true_eq] at within
              cases told
              rw [Int64.toInt_ofInt_of_le within.1 (Int.lt_of_le_sub_one within.2)]
              rfl
            · cases told
        | real size => cases told
    | _ => cases told
  · rintro rfl
    have least := word.le_toInt
    have greatest := word.toInt_lt
    have within : (Decimal.leastWord ≤ word.toInt && word.toInt ≤ Decimal.greatestWord) = true := by
      simp only [Bool.and_eq_true, decide_eq_true_eq]
      exact ⟨least, Int.le_sub_one_of_lt greatest⟩
    rw [ofInt, asWord, if_pos within, Int64.ofInt_toInt]

theorem asWord_whole_ne_ok_iff {size : Int} :
    (∀ word, (Value.ofInt size).asWord ≠ .ok word) ↔ size < -2 ^ 63 ∨ 2 ^ 63 ≤ size := by
  constructor
  · intro unfit
    by_contra within
    refine unfit (Int64.ofInt size) (asWord_eq_ok_iff.mpr ?_)
    rw [Int64.toInt_ofInt_of_le (by omega) (by omega)]
  · rintro beyond word fits
    have same := asWord_eq_ok_iff.mp fits
    have sameSize : size = word.toInt := Number.whole.inj (Value.number.inj same)
    have least := word.le_toInt
    have greatest := word.toInt_lt
    omega

theorem asReal_eq_ok_iff {value : Value} {number : Float} :
    value.asReal = .ok number ↔
      value = .number (.real number) ∨
        ∃ size, value = .ofInt size ∧ number = Decimal.ofInt size := by
  constructor
  · intro told
    cases value with
    | number given =>
        cases given with
        | whole size =>
            cases told
            exact Or.inr ⟨size, rfl, rfl⟩
        | real size =>
            cases told
            exact Or.inl rfl
    | _ => cases told
  · rintro (rfl | ⟨size, rfl, rfl⟩)
    · rfl
    · rfl

theorem asFlag_eq_ok_iff {value : Value} {flag : Bool} :
    value.asFlag = .ok flag ↔ value = .bool flag := by
  constructor
  · intro told
    cases value with
    | bool given =>
        cases told
        rfl
    | _ => cases told
  · rintro rfl
    rfl

theorem asText_eq_ok_iff {value : Value} {text : String} :
    value.asText = .ok text ↔ value = .text text := by
  constructor
  · intro told
    cases value with
    | text given =>
        cases told
        rfl
    | _ => cases told
  · rintro rfl
    rfl

end Json.Value

namespace Binding

open Json (Value)

def IsFinite : Binding → Prop
  | real number => Decimal.isFinite number = true
  | _ => True

/-- What a JSON value stands for as a binding. -/
inductive Denotes : Value → Binding → Prop where
  | integer (word : Int64) : Denotes (.ofInt word.toInt) (.integer word)
  | beyond (size : Int) (beyond : size < -2 ^ 63 ∨ 2 ^ 63 ≤ size) :
      Denotes (.ofInt size) (.real (Decimal.ofInt size))
  | real (number : Float) : Denotes (.number (.real number)) (.real number)
  | flag (flag : Bool) : Denotes (.bool flag) (.flag flag)
  | text (text : String) : Denotes (.text text) (.text text)

/-- A value is read as what it stands for: no form before that fits it. -/
theorem decode_of_denotes {value : Value} {binding : Binding} (denotes : Denotes value binding) :
    decode value = .ok binding := by
  cases denotes with
  | integer word =>
      exact Value.asFirst_of_fits
        (Value.map_eq_ok_iff.mpr ⟨word, Value.asWord_eq_ok_iff.mpr rfl, rfl⟩)
  | beyond size beyond =>
      have noWord : ∀ other, (Value.ofInt size).asWord.map integer ≠ .ok other :=
        Value.map_ne_ok_iff.mpr (Value.asWord_whole_ne_ok_iff.mpr beyond)
      exact Value.asFirst_cons_eq_ok_iff.mpr (Or.inr ⟨noWord, Value.asFirst_of_fits rfl⟩)
  | real number => rfl
  | flag flag => rfl
  | text text => rfl

private theorem denotes_of_decode {value : Value} {binding : Binding}
    (decoded : decode value = .ok binding) : Denotes value binding := by
  rw [decode, forms] at decoded
  rcases Value.asFirst_cons_eq_ok_iff.mp decoded with asWord | ⟨noWord, decoded⟩
  · obtain ⟨word, told, rfl⟩ := Value.map_eq_ok_iff.mp asWord
    rw [Value.asWord_eq_ok_iff.mp told]
    exact .integer word
  rcases Value.asFirst_cons_eq_ok_iff.mp decoded with asReal | ⟨_, decoded⟩
  · obtain ⟨number, told, rfl⟩ := Value.map_eq_ok_iff.mp asReal
    rcases Value.asReal_eq_ok_iff.mp told with rfl | ⟨size, rfl, rfl⟩
    · exact .real number
    · exact .beyond size (Value.asWord_whole_ne_ok_iff.mp (Value.map_ne_ok_iff.mp noWord))
  rcases Value.asFirst_cons_eq_ok_iff.mp decoded with asFlag | ⟨_, decoded⟩
  · obtain ⟨flag, told, rfl⟩ := Value.map_eq_ok_iff.mp asFlag
    rw [Value.asFlag_eq_ok_iff.mp told]
    exact .flag flag
  rcases Value.asFirst_cons_eq_ok_iff.mp decoded with asText | ⟨_, decoded⟩
  · obtain ⟨text, told, rfl⟩ := Value.map_eq_ok_iff.mp asText
    rw [Value.asText_eq_ok_iff.mp told]
    exact .text text
  · exact absurd decoded Value.asFirst_nil_ne_ok

theorem decode_eq_ok_iff {value : Value} {binding : Binding} :
    decode value = .ok binding ↔ Denotes value binding :=
  ⟨denotes_of_decode, decode_of_denotes⟩

/-- Values that stand for no binding. -/
inductive IsForeign : Value → Prop where
  | null : IsForeign .null
  | list (items : List Value) : IsForeign (.list items)
  | object (fields : List (String × Value)) : IsForeign (.object fields)
  | unusable : IsForeign .unusable

private theorem isForeign_or_denotes (value : Value) :
    IsForeign value ∨ ∃ binding, Denotes value binding := by
  cases value with
  | null => exact Or.inl .null
  | list items => exact Or.inl (.list items)
  | object fields => exact Or.inl (.object fields)
  | unusable => exact Or.inl .unusable
  | bool flag => exact Or.inr ⟨_, .flag flag⟩
  | text text => exact Or.inr ⟨_, .text text⟩
  | number number =>
      cases number with
      | real number => exact Or.inr ⟨_, .real number⟩
      | whole size =>
          by_cases beyond : size < -2 ^ 63 ∨ 2 ^ 63 ≤ size
          · exact Or.inr ⟨_, .beyond size beyond⟩
          · have word : (Int64.ofInt size).toInt = size :=
              Int64.toInt_ofInt_of_le (by omega) (by omega)
            have denotes := Denotes.integer (Int64.ofInt size)
            rw [word] at denotes
            exact Or.inr ⟨_, denotes⟩

theorem decode_eq_error_iff {value : Value} {mismatch : Json.Mismatch} :
    decode value = .error mismatch ↔ mismatch = .noVariant "Binding" ∧ IsForeign value := by
  constructor
  · intro failed
    refine ⟨Value.asFirst_eq_error failed, (isForeign_or_denotes value).resolve_right ?_⟩
    rintro ⟨binding, denotes⟩
    rw [decode_of_denotes denotes] at failed
    cases failed
  · rintro ⟨rfl, foreign⟩
    cases foreign <;> rfl

/-- What a binding is written as stands for it, unless it is a number that is not finite. -/
theorem denotes_encode {binding : Binding} (finite : binding.IsFinite) :
    Denotes binding.encode binding := by
  cases binding with
  | integer word => exact .integer word
  | real number =>
      have written : (real number).encode = .number (.real number) := if_pos finite
      rw [written]
      exact .real number
  | flag flag => exact .flag flag
  | text text => exact .text text

private theorem encode_of_not_finite {binding : Binding} (infinite : ¬ binding.IsFinite) :
    binding.encode = .null := by
  cases binding with
  | real number => exact if_neg infinite
  | _ => exact absurd trivial infinite

/-- How bindings are written to JSON and read from it. -/
structure ReadsBack (binding : Binding) (value : Value) : Prop where
  /-- Exactly the numbers that are not finite are not read back; they become `null`. -/
  same : decode binding.encode = .ok binding ↔ binding.IsFinite
  lost : ¬ binding.IsFinite → binding.encode = .null
  decoded : decode value = .ok binding ↔ Denotes value binding
  refused : ∀ mismatch, decode value = .error mismatch ↔
    mismatch = .noVariant "Binding" ∧ IsForeign value
  /-- Whole numbers that only fit 64 bits without sign are rounded. -/
  rounded : ∀ size : Nat, 2 ^ 63 ≤ size → size < 2 ^ 64 →
    ∃ number, decode (.ofNat size) = .ok (.real number) ∧ Decimal.IsNearest size number

/-- Every binding is read back from what it is written as, a number that is not finite apart,
and every value is read as the one binding that it stands for, or it stands for none. -/
theorem readsBack (binding : Binding) (value : Value) : ReadsBack binding value where
  same := by
    constructor
    · intro told
      by_contra infinite
      rw [encode_of_not_finite infinite] at told
      cases told
    · intro finite
      exact decode_of_denotes (denotes_encode finite)
  lost := encode_of_not_finite
  decoded := decode_eq_ok_iff
  refused := fun _ => decode_eq_error_iff
  rounded := by
    intro size least most
    have beyond : (size : Int) < -2 ^ 63 ∨ 2 ^ 63 ≤ (size : Int) := Or.inr (by exact_mod_cast least)
    have some : size ≠ 0 := by omega
    have short : size.log2 < 64 := (Nat.log2_lt some).mpr most
    exact ⟨_, decode_of_denotes (.beyond size beyond),
      Decimal.ofInt_isNearest size (by omega)⟩

end Binding

end RemoteQuery
