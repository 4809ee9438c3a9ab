import Mathlib.Data.List.Forall2
import Mathlib.Data.List.TakeWhile
import RemoteQuery.Proofs.Text.Case
import RemoteQuery.Sql.Ranking
set_option autoImplicit false

/-! What the check finds in a text that cannot be read as SQL.  It reads from left to right and
never goes back: blanks are skipped as far as they go, and what may be missing is taken where it
stands.  Nothing that has to come behind such a part can begin it, so the check finds a ranking
call, or a ranking name, wherever the text can be cut into the parts of one. -/

namespace RemoteQuery.Sql

/-! ### Parts of a text -/

/-- The character is the letter in some case.  Besides the capital there are the Kelvin sign and
the long s. -/
def Spells (letter c : Char) : Prop :=
  c = letter ∨ c = letter.toUpper ∨ letter = 'k' ∧ c = '\u212A' ∨ letter = 's' ∧ c = '\u017F'

instance (letter c : Char) : Decidable (Spells letter c) :=
  inferInstanceAs (Decidable (_ ∨ _))

def Spelled (word : String) (written : List Char) : Prop :=
  List.Forall₂ Spells word.toList written

instance (word : String) (written : List Char) : Decidable (Spelled word written) :=
  inferInstanceAs (Decidable (List.Forall₂ _ _ _))

def Blank (text : List Char) : Prop := ∀ c ∈ text, Text.isBlank c = true

instance (text : List Char) : Decidable (Blank text) :=
  List.decidableBAll _ text

def OptionalAs (text : List Char) : Prop :=
  text = [] ∨ ∃ word gap, text = word ++ gap ∧ Spelled "as" word ∧ Blank gap ∧ gap ≠ []

def OptionalQuote (text : List Char) : Prop := text = [] ∨ text = ['\x60'] ∨ text = ['"']

/-- A ranking function, called without arguments and followed by the word `over`. -/
def BeginsCall (text : List Char) : Prop :=
  ∃ name first second third window behind,
    text = name ++ (first ++ '(' :: (second ++ ')' :: (third ++ (window ++ behind)))) ∧
    (Spelled "row_number" name ∨ Spelled "rank" name ∨ Spelled "dense_rank" name) ∧
    Blank first ∧ Blank second ∧ Blank third ∧ Spelled "over" window ∧
    ∀ next ∈ behind.head?, Text.isWordChar next = false

/-- The ranking name behind a closing parenthesis. -/
def BeginsName (text : List Char) : Prop :=
  ∃ gap word opening name closing behind,
    text = gap ++ (word ++ (opening ++ (name ++ (closing ++ behind)))) ∧
    Blank gap ∧ OptionalAs word ∧ OptionalQuote opening ∧ Spelled "rn" name ∧
    OptionalQuote closing ∧ ∀ next ∈ behind.head?, Text.isBlank next = true ∨ next = ','

/-- A ranking call stands in the text, and not behind a word character. -/
def CallsRanking (text : List Char) : Prop :=
  ∃ before rest, text = before ++ rest ∧
    (∀ last ∈ before.getLast?, Text.isWordChar last = false) ∧ BeginsCall rest

/-- The ranking name stands in the text behind a closing parenthesis. -/
def NamesRanking (text : List Char) : Prop :=
  ∃ before rest, text = before ++ ')' :: rest ∧ BeginsName rest

/-! ### What the readers take -/

theorem standsFor_iff (letter c : Char) (uncapital : letter.toNat < 0x41 ∨ 0x5A < letter.toNat) :
    standsFor letter c = true ↔ Spells letter c := by
  unfold standsFor Spells
  simp only [Bool.or_eq_true, Bool.and_eq_true, beq_iff_eq, Text.toLower_eq_iff _ _ uncapital]
  tauto

def Uncapital (word : List Char) : Prop :=
  ∀ letter ∈ word, letter.toNat < 0x41 ∨ 0x5A < letter.toNat

instance (word : List Char) : Decidable (Uncapital word) :=
  List.decidableBAll _ word

theorem afterWord_eq_some_iff {word : List Char} (uncapital : Uncapital word)
    (text rest : List Char) :
    afterWord word text = some rest
      ↔ ∃ written, List.Forall₂ Spells word written ∧ text = written ++ rest := by
  induction word generalizing text with
  | nil =>
      constructor
      · intro taken
        exact ⟨[], .nil, Option.some.inj taken⟩
      · rintro ⟨written, spelled, rfl⟩
        cases spelled
        rfl
  | cons letter word inductionHypothesis =>
      have small := uncapital letter (List.mem_cons_self ..)
      have inductionHypothesis := inductionHypothesis
        (fun other member => uncapital other (List.mem_cons_of_mem letter member))
      constructor
      · intro taken
        cases text with
        | nil => cases taken
        | cons c text =>
            rw [afterWord] at taken
            split at taken
            · rename_i stands
              obtain ⟨written, spelled, split⟩ := (inductionHypothesis text).mp taken
              refine ⟨c :: written, .cons ((standsFor_iff letter c small).mp stands) spelled, ?_⟩
              rw [split, List.cons_append]
            · cases taken
      · rintro ⟨written, spelled, rfl⟩
        cases spelled with
        | cons spells spelled =>
            rw [List.cons_append, afterWord, if_pos ((standsFor_iff letter _ small).mpr spells)]
            exact (inductionHypothesis _).mpr ⟨_, spelled, rfl⟩

private theorem afterWord_spelled {word written : List Char} (uncapital : Uncapital word)
    (spelled : List.Forall₂ Spells word written) (rest : List Char) :
    afterWord word (written ++ rest) = some rest :=
  (afterWord_eq_some_iff uncapital _ _).mpr ⟨written, spelled, rfl⟩

theorem afterOne_eq_some_iff (allowed : Char → Bool) (text rest : List Char) :
    afterOne allowed text = some rest ↔ ∃ c, allowed c = true ∧ text = c :: rest := by
  cases text with
  | nil => simp [afterOne]
  | cons c text =>
      rw [afterOne]
      constructor
      · intro taken
        split at taken
        · rename_i fits
          exact ⟨c, fits, by rw [Option.some.inj taken]⟩
        · cases taken
      · rintro ⟨d, fits, same⟩
        obtain ⟨rfl, rfl⟩ := List.cons.inj same
        rw [if_pos fits]

/-! ### Parts that are passed over -/

section Passing

variable (next : List Char → Prop)

/-- Skipping all blanks is enough where a blank cannot come next. -/
theorem skipBlank_iff (text : List Char)
    (visible : ∀ c rest, next (c :: rest) → Text.isBlank c = false) :
    next (skipBlank text) ↔ ∃ gap rest, Blank gap ∧ text = gap ++ rest ∧ next rest := by
  constructor
  · intro comes
    refine ⟨text.takeWhile Text.isBlank, skipBlank text, ?_,
      List.takeWhile_append_dropWhile.symm, comes⟩
    intro c member
    exact List.mem_takeWhile_imp member
  · rintro ⟨gap, rest, blank, rfl, comes⟩
    have stops : rest.dropWhile Text.isBlank = rest := by
      cases rest with
      | nil => rfl
      | cons c rest => rw [List.dropWhile_cons, visible c rest comes, if_neg Bool.false_ne_true]
    rw [skipBlank, List.dropWhile_append_of_pos blank, stops]
    exact comes

theorem afterOptional_iff (text : List Char)
    (unquoted : ∀ c rest, next (c :: rest) → isNameQuote c = false) :
    next (afterOptional isNameQuote text)
      ↔ ∃ quote rest, OptionalQuote quote ∧ text = quote ++ rest ∧ next rest := by
  have optional {c : Char} (quotes : isNameQuote c = true) : OptionalQuote [c] := by
    simp only [isNameQuote, Bool.or_eq_true, beq_iff_eq] at quotes
    rcases quotes with rfl | rfl
    · exact Or.inr (Or.inl rfl)
    · exact Or.inr (Or.inr rfl)
  unfold afterOptional
  constructor
  · intro comes
    cases taken : afterOne isNameQuote text with
    | none =>
        rw [taken] at comes
        exact ⟨[], text, Or.inl rfl, rfl, comes⟩
    | some rest =>
        rw [taken] at comes
        obtain ⟨c, quotes, split⟩ := (afterOne_eq_some_iff _ _ _).mp taken
        exact ⟨[c], rest, optional quotes, split, comes⟩
  · rintro ⟨quote, rest, rfl | rfl | rfl, rfl, comes⟩
    · cases text with
      | nil => exact comes
      | cons c rest =>
          rw [afterOne, unquoted c rest comes, if_neg Bool.false_ne_true]
          exact comes
    · exact comes
    · exact comes

theorem afterAs_iff (text : List Char)
    (visible : ∀ c rest, next (c :: rest) → Text.isBlank c = false)
    (other : ∀ c rest, next (c :: rest) → ¬ Spells 'a' c) :
    next (afterAs text) ↔ ∃ word rest, OptionalAs word ∧ text = word ++ rest ∧ next rest := by
  have uncapital : Uncapital "as".toList := by decide
  unfold afterAs
  constructor
  · intro comes
    split at comes
    · rename_i c rest taken
      split at comes
      · rename_i blank
        obtain ⟨word, spelled, split⟩ := (afterWord_eq_some_iff uncapital _ _).mp taken
        obtain ⟨gap, behind, blanks, same, comes⟩ := (skipBlank_iff next rest visible).mp comes
        refine ⟨word ++ c :: gap, behind,
          Or.inr ⟨word, c :: gap, rfl, spelled, ?_, List.cons_ne_nil c gap⟩, ?_, comes⟩
        · intro d member
          rcases List.mem_cons.mp member with rfl | inGap
          · exact blank
          · exact blanks d inGap
        · rw [split, same, List.append_assoc, List.cons_append]
      · exact ⟨[], text, Or.inl rfl, rfl, comes⟩
    · exact ⟨[], text, Or.inl rfl, rfl, comes⟩
  · rintro ⟨word, rest, rfl | ⟨word, gap, rfl, spelled, blank, someGap⟩, rfl, comes⟩
    · have unread : afterWord "as".toList text = none := by
        rw [Option.eq_none_iff_forall_not_mem]
        intro behind taken
        obtain ⟨word, spelled, split⟩ := (afterWord_eq_some_iff uncapital _ _).mp taken
        cases spelled with
        | cons spells _ =>
            rw [List.cons_append] at split
            rw [split] at comes
            exact other _ _ comes spells
      rw [unread]
      exact comes
    · obtain ⟨c, gap, rfl⟩ := List.exists_cons_of_ne_nil someGap
      rw [List.append_assoc, List.cons_append, afterWord_spelled uncapital spelled]
      have blankHead := blank c (List.mem_cons_self ..)
      simp only [blankHead, if_true]
      exact (skipBlank_iff next _ visible).mpr
        ⟨gap, rest, fun d member => blank d (List.mem_cons_of_mem c member), rfl, comes⟩

end Passing

/-! ### Ranking calls -/

private theorem spells_plain {letter c : Char} (plain : letter ≠ 'k' ∧ letter ≠ 's') :
    Spells letter c ↔ c = letter ∨ c = letter.toUpper := by
  unfold Spells
  simp only [plain.1, plain.2, false_and, or_false]

theorem symbol_iff (symbol : Char) (visible : Text.isBlank symbol = false)
    (text rest : List Char) :
    afterOne (· == symbol) (skipBlank text) = some rest
      ↔ ∃ gap, Blank gap ∧ text = gap ++ symbol :: rest := by
  have stands (shown : List Char) :
      afterOne (· == symbol) shown = some rest ↔ shown = symbol :: rest := by
    rw [afterOne_eq_some_iff]
    simp only [beq_iff_eq, exists_eq_left]
  rw [skipBlank_iff (fun shown => afterOne (· == symbol) shown = some rest) text]
  · simp only [stands]
    constructor
    · rintro ⟨gap, shown, blank, split, same⟩
      exact ⟨gap, blank, by rw [split, same]⟩
    · rintro ⟨gap, blank, split⟩
      exact ⟨gap, symbol :: rest, blank, split, rfl⟩
  · intro c shown comes
    rw [stands] at comes
    rw [(List.cons.inj comes).1, visible]

theorem over_iff (text rest : List Char) :
    afterWord "over".toList (skipBlank text) = some rest
      ↔ ∃ gap window, Blank gap ∧ Spelled "over" window ∧ text = gap ++ (window ++ rest) := by
  have uncapital : Uncapital "over".toList := by decide
  rw [skipBlank_iff (fun shown => afterWord "over".toList shown = some rest) text]
  · simp only [afterWord_eq_some_iff uncapital]
    constructor
    · rintro ⟨gap, shown, blank, split, window, spelled, same⟩
      exact ⟨gap, window, blank, spelled, by rw [split, same]⟩
    · rintro ⟨gap, window, blank, spelled, split⟩
      exact ⟨gap, window ++ rest, blank, split, window, spelled, rfl⟩
  · intro c shown comes
    obtain ⟨window, spelled, split⟩ := (afterWord_eq_some_iff uncapital _ _).mp comes
    cases spelled with
    | cons spells _ =>
        rw [(List.cons.inj split).1]
        rcases (spells_plain (by decide)).mp spells with rfl | rfl <;> decide

theorem beginsWithRankingCall_iff (function : String) (uncapital : Uncapital function.toList)
    (text : List Char) :
    beginsWithRankingCall function text = true
      ↔ ∃ name first second third window behind,
          text = name ++ (first ++ '(' :: (second ++ ')' :: (third ++ (window ++ behind)))) ∧
          Spelled function name ∧ Blank first ∧ Blank second ∧ Blank third ∧
          Spelled "over" window ∧ ∀ next ∈ behind.head?, Text.isWordChar next = false := by
  have opens := symbol_iff '(' rfl
  have closes := symbol_iff ')' rfl
  unfold beginsWithRankingCall
  constructor
  · intro begins
    cases read : (do
        let behindName ← afterWord function.toList text
        let opened ← afterOne (· == '(') (skipBlank behindName)
        let closed ← afterOne (· == ')') (skipBlank opened)
        afterWord "over".toList (skipBlank closed)) with
    | none =>
        rw [read] at begins
        cases begins
    | some behind =>
        rw [read] at begins
        simp only [Option.bind_eq_bind, Option.bind_eq_some_iff, afterWord_eq_some_iff uncapital,
          opens, closes, over_iff] at read
        obtain ⟨_, ⟨name, spelled, rfl⟩, _, ⟨first, blankFirst, rfl⟩, _,
          ⟨second, blankSecond, rfl⟩, third, window, blankThird, spelledOver, rfl⟩ := read
        refine ⟨name, first, second, third, window, behind, rfl, spelled, blankFirst, blankSecond,
          blankThird, spelledOver, ?_⟩
        intro next isNext
        cases behind with
        | nil => cases isNext
        | cons c behind =>
            change (!Text.isWordChar c) = true at begins
            rw [Bool.not_eq_true'] at begins
            rw [← Option.some.inj isNext]
            exact begins
  · rintro ⟨name, first, second, third, window, behind, rfl, spelled, blankFirst, blankSecond,
      blankThird, spelledOver, ends⟩
    have overRead := (over_iff _ behind).mpr ⟨third, window, blankThird, spelledOver, rfl⟩
    have closed := (closes (second ++ ')' :: (third ++ (window ++ behind))) _).mpr
      ⟨second, blankSecond, rfl⟩
    have opened := (opens (first ++ '(' :: (second ++ ')' :: (third ++ (window ++ behind)))) _).mpr
      ⟨first, blankFirst, rfl⟩
    simp only [afterWord_spelled uncapital spelled, opened, closed, overRead, Option.bind_eq_bind,
      Option.bind_some]
    cases behind with
    | nil => rfl
    | cons c behind =>
        change (!Text.isWordChar c) = true
        rw [ends c rfl]
        rfl

private theorem rankingFunctions_uncapital :
    ∀ function ∈ rankingFunctions, Uncapital function.toList := by decide

theorem any_beginsWithRankingCall_iff (text : List Char) :
    (rankingFunctions.any fun function => beginsWithRankingCall function text) = true
      ↔ BeginsCall text := by
  rw [List.any_eq_true]
  constructor
  · rintro ⟨function, member, begins⟩
    obtain ⟨name, first, second, third, window, behind, split, spelled, rest⟩ :=
      (beginsWithRankingCall_iff function (rankingFunctions_uncapital function member) text).mp
        begins
    refine ⟨name, first, second, third, window, behind, split, ?_, rest⟩
    simp only [rankingFunctions, List.mem_cons, List.not_mem_nil, or_false] at member
    rcases member with rfl | rfl | rfl
    · exact Or.inl spelled
    · exact Or.inr (Or.inl spelled)
    · exact Or.inr (Or.inr spelled)
  · rintro ⟨name, first, second, third, window, behind, split, spelled, rest⟩
    have begins (function : String) (member : function ∈ rankingFunctions)
        (spelled : Spelled function name) :
        ∃ function, function ∈ rankingFunctions ∧ beginsWithRankingCall function text = true :=
      ⟨function, member,
        (beginsWithRankingCall_iff function (rankingFunctions_uncapital function member) text).mpr
          ⟨name, first, second, third, window, behind, split, spelled, rest⟩⟩
    rcases spelled with spelled | spelled | spelled
    · exact begins "row_number" (by decide) spelled
    · exact begins "rank" (by decide) spelled
    · exact begins "dense_rank" (by decide) spelled

private theorem not_beginsCall_nil : ¬ BeginsCall [] := by
  rintro ⟨name, first, second, third, window, behind, split, _⟩
  have lengths := congrArg List.length split
  simp at lengths

private theorem behindWord_cons (behindWord : Bool) (c : Char) (before : List Char) :
    ((c :: before).getLast?.map Text.isWordChar).getD behindWord
      = (before.getLast?.map Text.isWordChar).getD (Text.isWordChar c) := by
  rw [List.getLast?_cons]
  cases before.getLast? with
  | none => rfl
  | some last => rfl

/-- The scan carries along whether the character before is one of a word. -/
theorem hasRankingCall_iff (behindWord : Bool) (text : List Char) :
    hasRankingCall behindWord text = true
      ↔ ∃ before rest, text = before ++ rest ∧
          (before.getLast?.map Text.isWordChar).getD behindWord = false ∧ BeginsCall rest := by
  induction text generalizing behindWord with
  | nil =>
      constructor
      · intro found
        cases found
      · rintro ⟨before, rest, split, _, begins⟩
        rw [(List.append_eq_nil_iff.mp split.symm).2] at begins
        exact (not_beginsCall_nil begins).elim
  | cons c text inductionHypothesis =>
      rw [hasRankingCall, Bool.or_eq_true, Bool.and_eq_true, Bool.not_eq_true',
        any_beginsWithRankingCall_iff, inductionHypothesis]
      constructor
      · rintro (⟨free, begins⟩ | ⟨before, rest, rfl, free, begins⟩)
        · exact ⟨[], c :: text, rfl, free, begins⟩
        · exact ⟨c :: before, rest, rfl, (behindWord_cons ..).trans free, begins⟩
      · rintro ⟨before, rest, split, free, begins⟩
        cases before with
        | nil =>
            rw [List.nil_append] at split
            rw [split]
            exact Or.inl ⟨free, begins⟩
        | cons d before =>
            obtain ⟨rfl, rfl⟩ := List.cons.inj split
            exact Or.inr ⟨before, rest, rfl, (behindWord_cons ..).symm.trans free, begins⟩

theorem hasRankingCall_false_iff (text : List Char) :
    hasRankingCall false text = true ↔ CallsRanking text := by
  rw [hasRankingCall_iff]
  unfold CallsRanking
  constructor
  · rintro ⟨before, rest, split, free, begins⟩
    refine ⟨before, rest, split, ?_, begins⟩
    intro last isLast
    rw [isLast] at free
    exact free
  · rintro ⟨before, rest, split, free, begins⟩
    refine ⟨before, rest, split, ?_, begins⟩
    cases last : before.getLast? with
    | none => rfl
    | some c => exact free c last

/-! ### Ranking names -/

/-- What may come behind the ranking name and a quote that closes it. -/
def EndsName (text : List Char) : Prop :=
  ∀ next ∈ text.head?, Text.isBlank next = true ∨ next = ','

def BareName (text : List Char) : Prop :=
  ∃ name closing behind, text = name ++ (closing ++ behind) ∧ Spelled "rn" name ∧
    OptionalQuote closing ∧ EndsName behind

def QuotedName (text : List Char) : Prop :=
  ∃ opening rest, OptionalQuote opening ∧ text = opening ++ rest ∧ BareName rest

def LabelledName (text : List Char) : Prop :=
  ∃ word rest, OptionalAs word ∧ text = word ++ rest ∧ QuotedName rest

section Heads

variable {c : Char} {text : List Char}

theorem BareName.head (bare : BareName (c :: text)) : c = 'r' ∨ c = 'R' := by
  obtain ⟨name, closing, behind, split, spelled, _⟩ := bare
  cases spelled with
  | cons spells _ =>
      rw [(List.cons.inj split).1]
      exact (spells_plain (by decide)).mp spells

theorem BareName.unquoted (bare : BareName (c :: text)) : isNameQuote c = false := by
  rcases bare.head with rfl | rfl <;> decide

theorem QuotedName.head (quoted : QuotedName (c :: text)) :
    c = '\x60' ∨ c = '"' ∨ c = 'r' ∨ c = 'R' := by
  obtain ⟨opening, rest, rfl | rfl | rfl, split, bare⟩ := quoted
  · rw [List.nil_append] at split
    rw [← split] at bare
    exact Or.inr (Or.inr bare.head)
  · exact Or.inl (List.cons.inj split).1
  · exact Or.inr (Or.inl (List.cons.inj split).1)

theorem QuotedName.visible (quoted : QuotedName (c :: text)) : Text.isBlank c = false := by
  rcases quoted.head with rfl | rfl | rfl | rfl <;> decide

theorem QuotedName.not_spells (quoted : QuotedName (c :: text)) : ¬ Spells 'a' c := by
  rcases quoted.head with rfl | rfl | rfl | rfl <;> decide

theorem LabelledName.visible (labelled : LabelledName (c :: text)) : Text.isBlank c = false := by
  obtain ⟨word, rest, rfl | ⟨word, gap, rfl, spelled, _⟩, split, quoted⟩ := labelled
  · rw [List.nil_append] at split
    rw [← split] at quoted
    exact quoted.visible
  · cases spelled with
    | cons spells _ =>
        rw [(List.cons.inj split).1]
        rcases (spells_plain (by decide)).mp spells with rfl | rfl <;> decide

end Heads

private theorem not_isNameQuote_of_endsName (c : Char) (text : List Char)
    (ends : EndsName (c :: text)) :
    isNameQuote c = false := by
  refine Bool.eq_false_iff.mpr fun quotes => ?_
  simp only [isNameQuote, Bool.or_eq_true, beq_iff_eq] at quotes
  have next := ends c rfl
  rcases quotes with rfl | rfl
  · exact absurd next (by decide)
  · exact absurd next (by decide)

/-- The name itself, once everything in front of it has been passed over. -/
theorem beginsWithRankingName_iff_bareName (text : List Char) :
    beginsWithRankingName text = true
      ↔ BareName (afterOptional isNameQuote (afterAs (skipBlank text))) := by
  have uncapital : Uncapital rankingName.toList := by decide
  have closed (behind : List Char) : EndsName (afterOptional isNameQuote behind) ↔
      ∃ closing rest, OptionalQuote closing ∧ behind = closing ++ rest ∧ EndsName rest :=
    afterOptional_iff _ behind not_isNameQuote_of_endsName
  unfold beginsWithRankingName
  generalize afterOptional isNameQuote (afterAs (skipBlank text)) = shown
  constructor
  · intro begins
    split at begins
    · cases begins
    · rename_i behind taken
      have ends : EndsName (afterOptional isNameQuote behind) := by
        split at begins
        · rename_i ended
          rw [ended]
          intro next isNext
          cases isNext
        · rename_i c rest followed
          rw [followed]
          intro next isNext
          rw [← Option.some.inj isNext]
          simpa using begins
      obtain ⟨closing, rest, optional, same, ends⟩ := (closed behind).mp ends
      obtain ⟨name, spelled, split⟩ := (afterWord_eq_some_iff uncapital _ _).mp taken
      exact ⟨name, closing, rest, by rw [split, same], spelled, optional, ends⟩
  · rintro ⟨name, closing, behind, rfl, spelled, optional, ends⟩
    have ends := (closed _).mpr ⟨closing, behind, optional, rfl, ends⟩
    rw [afterWord_spelled uncapital spelled]
    cases followed : afterOptional isNameQuote (closing ++ behind) with
    | nil => simp only [followed]
    | cons c rest =>
        rw [followed] at ends
        simp only [followed, Bool.or_eq_true, beq_iff_eq]
        exact ends c rfl

theorem beginsWithRankingName_iff (text : List Char) :
    beginsWithRankingName text = true ↔ BeginsName text := by
  have labelled : beginsWithRankingName text = true
      ↔ ∃ gap rest, Blank gap ∧ text = gap ++ rest ∧ LabelledName rest := by
    rw [beginsWithRankingName_iff_bareName, afterOptional_iff BareName]
    · change QuotedName _ ↔ _
      rw [afterAs_iff QuotedName]
      · exact skipBlank_iff LabelledName text fun c rest comes => comes.visible
      · exact fun c rest comes => comes.visible
      · exact fun c rest comes => comes.not_spells
    · exact fun c rest comes => comes.unquoted
  rw [labelled]
  constructor
  · rintro ⟨gap, _, blank, rfl, word, _, optionalAs, rfl, opening, _, optionalOpening, rfl,
      name, closing, behind, rfl, spelled, optionalClosing, ends⟩
    exact ⟨gap, word, opening, name, closing, behind, rfl, blank, optionalAs, optionalOpening,
      spelled, optionalClosing, ends⟩
  · rintro ⟨gap, word, opening, name, closing, behind, rfl, blank, optionalAs, optionalOpening,
      spelled, optionalClosing, ends⟩
    exact ⟨gap, _, blank, rfl, word, _, optionalAs, rfl, opening, _, optionalOpening, rfl,
      name, closing, behind, rfl, spelled, optionalClosing, ends⟩

theorem hasRankingAlias_iff (text : List Char) :
    hasRankingAlias text = true ↔ NamesRanking text := by
  induction text with
  | nil =>
      constructor
      · intro found
        cases found
      · rintro ⟨before, rest, split, _⟩
        cases (List.append_eq_nil_iff.mp split.symm).2
  | cons c text inductionHypothesis =>
      rw [hasRankingAlias, Bool.or_eq_true, Bool.and_eq_true, beq_iff_eq,
        beginsWithRankingName_iff, inductionHypothesis]
      constructor
      · rintro (⟨rfl, begins⟩ | ⟨before, rest, rfl, begins⟩)
        · exact ⟨[], text, rfl, begins⟩
        · exact ⟨c :: before, rest, rfl, begins⟩
      · rintro ⟨before, rest, split, begins⟩
        cases before with
        | nil =>
            obtain ⟨rfl, rfl⟩ := List.cons.inj split
            exact Or.inl ⟨rfl, begins⟩
        | cons d before => exact Or.inr ⟨before, rest, (List.cons.inj split).2, begins⟩

/-! ### The whole check -/

theorem looksRanked_iff (text : List Char) :
    looksRanked text = true ↔ CallsRanking text ∧ NamesRanking text := by
  rw [looksRanked, Bool.and_eq_true, hasRankingCall_false_iff, hasRankingAlias_iff]

/-- A text that cannot be read as SQL passes the check exactly if a ranking call stands in it and
a ranking name does, wherever each of them stands. -/
theorem hasRankingColumn_unread (text : String) (unread : parse text = none) :
    hasRankingColumn text = true ↔ CallsRanking text.toList ∧ NamesRanking text.toList := by
  rw [hasRankingColumn, unread]
  exact looksRanked_iff text.toList

theorem hasRankingColumn_unread_mixed :
    let text := "f(a) \u2003A\u017F\t\"Rn\x60, b, (DEN\u017Fe_ran\u212A (\n)OVER(c)) ???"
    parse text = none ∧ hasRankingColumn text = true := by
  intro text
  have unread : parse text = none := Option.isNone_iff_eq_none.mp (by decide +kernel)
  have apart : ∀ last ∈ (text.toList.take 19).getLast?, Text.isWordChar last = false :=
    @of_decide_eq_true _ (Option.decidableForallMem _) (by decide)
  have followed : ∀ next ∈ "(c)) ???".toList.head?, Text.isWordChar next = false :=
    @of_decide_eq_true _ (Option.decidableForallMem _) (by decide)
  have calls : CallsRanking text.toList :=
    ⟨text.toList.take 19, text.toList.drop 19, by decide, apart, "DEN\u017Fe_ran\u212A".toList,
      [' '], ['\n'], [], "OVER".toList, "(c)) ???".toList, by decide, by decide, by decide,
      by decide, by decide, by decide, followed⟩
  have labelled : OptionalAs "A\u017F\t".toList :=
    Or.inr ⟨"A\u017F".toList, ['\t'], by decide, by decide, by decide, by decide⟩
  have ended : ∀ next ∈ (text.toList.drop 13).head?, Text.isBlank next = true ∨ next = ',' :=
    @of_decide_eq_true _ (Option.decidableForallMem _) (by decide)
  have names : NamesRanking text.toList :=
    ⟨"f(a".toList, text.toList.drop 4, by decide, [' ', '\u2003'], "A\u017F\t".toList, ['"'],
      "Rn".toList, ['\x60'], text.toList.drop 13, by decide, by decide, labelled,
      Or.inr (Or.inr rfl), by decide, Or.inr (Or.inl rfl), ended⟩
  exact ⟨unread, (hasRankingColumn_unread text unread).mpr ⟨calls, names⟩⟩

end RemoteQuery.Sql
