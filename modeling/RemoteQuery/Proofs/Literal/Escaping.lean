import RemoteQuery.Proofs.Literal.Reading
set_option autoImplicit false

/-! Escaping is undone by reading.  A literal is read up to the first quote that is not
doubled, and the texts that are read are exactly the escaped ones in their quotes, with
nothing behind them that could double the last quote.  So a text can be told from its
literal, and escaping is seen exactly in texts with a quote. -/

namespace RemoteQuery

namespace Literal

/-- Read one literal, its opening quote included: its text, and what stands behind. -/
def read : List Char → Option (List Char × List Char)
  | [] => none
  | c :: rest => if c = '\'' then readRest false rest else none

instance (text : List Char) : Decidable (StartsUnquoted text) :=
  inferInstanceAs (Decidable (text.head? ≠ some '\''))

/-- What has been read of a literal was written by escaping, up to the quote that closes
it.  A quote that stands in front belongs to what has been read. -/
theorem escape_of_readRest {halfway : Bool} {source text behind : List Char}
    (came : readRest halfway source = some (text, behind)) :
    (if halfway then '\'' :: source else source) = escape text ++ '\'' :: behind ∧
      StartsUnquoted behind := by
  induction source generalizing halfway text behind with
  | nil =>
      cases halfway with
      | true =>
          cases came
          exact ⟨rfl, startsUnquoted_nil⟩
      | false => cases came
  | cons c rest inductionHypothesis =>
      rw [readRest] at came
      by_cases isQuote : c = '\''
      · rw [if_pos isQuote] at came
        cases halfway with
        | true =>
            obtain ⟨⟨inner, after⟩, found, same⟩ := Option.map_eq_some_iff.mp came
            cases same
            obtain ⟨written, apart⟩ := inductionHypothesis found
            rw [if_neg Bool.false_ne_true] at written
            rw [if_pos rfl, written, isQuote, escape, if_pos rfl]
            exact ⟨rfl, apart⟩
        | false =>
            rw [if_neg Bool.false_ne_true, isQuote]
            exact inductionHypothesis came
      · rw [if_neg isQuote] at came
        cases halfway with
        | true =>
            cases came
            exact ⟨rfl, fun first => isQuote (Option.some.inj first)⟩
        | false =>
            obtain ⟨⟨inner, after⟩, found, same⟩ := Option.map_eq_some_iff.mp came
            cases same
            obtain ⟨written, apart⟩ := inductionHypothesis found
            rw [if_neg Bool.false_ne_true] at written
            rw [if_neg Bool.false_ne_true, written, escape, if_neg isQuote]
            exact ⟨rfl, apart⟩

private theorem quote_append (text behind : List Char) :
    quote text ++ behind = '\'' :: (text ++ '\'' :: behind) := by
  rw [quote, List.cons_append, List.append_assoc]
  rfl

theorem read_eq_some_iff {source text behind : List Char} :
    read source = some (text, behind) ↔
      source = quote (escape text) ++ behind ∧ StartsUnquoted behind := by
  constructor
  · intro came
    cases source with
    | nil => cases came
    | cons c rest =>
        rw [read] at came
        by_cases opens : c = '\''
        · rw [if_pos opens] at came
          obtain ⟨written, apart⟩ := escape_of_readRest came
          rw [if_neg Bool.false_ne_true] at written
          rw [quote_append, opens, written]
          exact ⟨rfl, apart⟩
        · rw [if_neg opens] at came
          cases came
  · rintro ⟨written, apart⟩
    rw [written, quote_append, read, if_pos rfl]
    exact readRest_escape text apart

private theorem read_quote_escape (text : List Char) {behind : List Char}
    (apart : StartsUnquoted behind) :
    read (quote (escape text) ++ behind) = some (text, behind) :=
  read_eq_some_iff.mpr ⟨rfl, apart⟩

theorem quote_injective {first second : List Char} (same : quote first = quote second) :
    first = second :=
  List.append_cancel_right (List.cons.inj same).2

theorem escape_injective {first second : List Char} (same : escape first = escape second) :
    first = second := by
  have readFirst := read_quote_escape first startsUnquoted_nil
  have readSecond := read_quote_escape second startsUnquoted_nil
  rw [same, readSecond] at readFirst
  exact (congrArg Prod.fst (Option.some.inj readFirst)).symm

theorem length_escape (text : List Char) :
    (escape text).length = text.length + text.count '\'' := by
  induction text with
  | nil => rfl
  | cons c rest inductionHypothesis =>
      rw [escape]
      by_cases isQuote : c = '\''
      · rw [if_pos isQuote, isQuote, List.count_cons_self, List.length_cons, List.length_cons,
          List.length_cons, inductionHypothesis]
        omega
      · rw [if_neg isQuote, List.count_cons_of_ne isQuote, List.length_cons, List.length_cons,
          inductionHypothesis]
        omega

theorem escape_eq_self_iff {text : List Char} : escape text = text ↔ '\'' ∉ text := by
  constructor
  · intro same
    have longer := length_escape text
    rw [same] at longer
    exact List.count_eq_zero.mp (by omega)
  · exact escape_of_unquoted

end Literal

namespace Binding

variable {value : String}

private theorem literal_verbatim (bare : Literal.isNumeric value.toList = false) :
    (text value).literal .verbatim = Literal.quote value.toList := by
  rw [literal, bare, if_neg Bool.false_ne_true]

private theorem literal_escapeQuotes (bare : Literal.isNumeric value.toList = false) :
    (text value).literal .escapeQuotes = Literal.quote (Literal.escape value.toList) := by
  rw [literal, bare, if_neg Bool.false_ne_true]

/-- Reading an escaped literal gives the text and leaves what stands behind, and nothing
else is read as a literal.  So texts that do not read as numbers have literals of their
own, which are the verbatim ones exactly for texts without a quote. -/
theorem literal_readBack :
    (∀ source text behind : List Char, Literal.read source = some (text, behind) ↔
      source = Literal.quote (Literal.escape text) ++ behind ∧ Literal.StartsUnquoted behind) ∧
    (∀ value : String, Literal.isNumeric value.toList = false →
      (∀ behind : List Char, Literal.StartsUnquoted behind →
        Literal.read ((text value).literal .escapeQuotes ++ behind)
          = some (value.toList, behind)) ∧
      (∀ other : String, Literal.isNumeric other.toList = false →
        (text value).literal .escapeQuotes = (text other).literal .escapeQuotes →
        value = other) ∧
      ((text value).literal .escapeQuotes = (text value).literal .verbatim ↔
        '\'' ∉ value.toList)) := by
  refine ⟨fun _ _ _ => Literal.read_eq_some_iff, fun value bare => ⟨?_, ?_, ?_⟩⟩
  · intro behind apart
    rw [literal_escapeQuotes bare]
    exact Literal.read_quote_escape value.toList apart
  · intro other otherBare same
    rw [literal_escapeQuotes bare, literal_escapeQuotes otherBare] at same
    exact String.toList_inj.mp (Literal.escape_injective (Literal.quote_injective same))
  · rw [literal_escapeQuotes bare, literal_verbatim bare, ← Literal.escape_eq_self_iff]
    exact ⟨Literal.quote_injective, congrArg Literal.quote⟩

theorem literal_readBack_quotes :
    Literal.read "'''it''''s''' OR ''".toList = some ("'it''s'".toList, " OR ''".toList) ∧
    Literal.read ((text "'it''s'").literal .escapeQuotes ++ ", 'x'".toList)
      = some ("'it''s'".toList, ", 'x'".toList) ∧
    (text "'it''s'").literal .escapeQuotes ≠ (text "'it's'").literal .escapeQuotes ∧
    (text "'it''s'").literal .escapeQuotes ≠ (text "'it''s'").literal .verbatim := by
  have bare : Literal.isNumeric "'it''s'".toList = false := by decide
  have otherBare : Literal.isNumeric "'it's'".toList = false := by decide
  obtain ⟨reads, literals⟩ := literal_readBack
  obtain ⟨back, injective, verbatim⟩ := literals "'it''s'" bare
  refine ⟨(reads _ _ _).mpr ⟨by decide, by decide⟩, back _ (by decide), ?_, ?_⟩
  · intro same
    exact absurd (injective "'it's'" otherBare same) (by decide)
  · intro same
    exact absurd (verbatim.mp same) (by decide)

end Binding

end RemoteQuery
