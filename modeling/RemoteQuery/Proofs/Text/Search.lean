import Mathlib.Data.List.Infix
import RemoteQuery.Text.Search
set_option autoImplicit false

/-! Cutting and replacing.  A token cuts a text into pieces in one way, and replacing it
puts the replacement between them.  Where no occurrence can lie over the seam between two
texts, each of them is replaced by itself; so a part that neither begins nor ends like the
token keeps what stands around it apart. -/

namespace RemoteQuery.Text

/-! ### Separators -/

theorem splitAt_of_absent {separator : Char} {text : List Char} (absent : separator ∉ text) :
    splitAt separator text = [text] := by
  induction text with
  | nil => rfl
  | cons c rest inductionHypothesis =>
      have different : c ≠ separator := fun same => absent (same ▸ List.mem_cons_self)
      rw [splitAt, if_neg different,
        inductionHypothesis fun member => absent (List.mem_cons_of_mem c member)]

theorem splitAt_append (separator : Char) (first second : List Char) :
    splitAt separator (first ++ separator :: second)
      = splitAt separator first ++ splitAt separator second := by
  induction first with
  | nil => exact if_pos rfl
  | cons c rest inductionHypothesis =>
      rw [List.cons_append, splitAt, splitAt, inductionHypothesis]
      by_cases found : c = separator
      · rw [if_pos found, if_pos found, List.cons_append]
      · rw [if_neg found, if_neg found]
        cases pieces : splitAt separator rest with
        | nil => exact (splitAt_ne_nil separator rest pieces).elim
        | cons piece others => rfl

theorem length_splitAt (separator : Char) (text : List Char) :
    (splitAt separator text).length = text.count separator + 1 := by
  induction text with
  | nil => rfl
  | cons c rest inductionHypothesis =>
      rw [splitAt]
      by_cases found : c = separator
      · rw [if_pos found, List.length_cons, inductionHypothesis, found, List.count_cons_self]
      · rw [if_neg found, List.count_cons_of_ne found, ← inductionHypothesis]
        cases pieces : splitAt separator rest with
        | nil => exact (splitAt_ne_nil separator rest pieces).elim
        | cons piece others => rfl

theorem not_mem_of_mem_splitAt {separator : Char} {piece text : List Char}
    (member : piece ∈ splitAt separator text) : separator ∉ piece := by
  induction text generalizing piece with
  | nil =>
      rw [splitAt, List.mem_singleton] at member
      rw [member]
      exact List.not_mem_nil
  | cons c rest inductionHypothesis =>
      rw [splitAt] at member
      by_cases found : c = separator
      · rw [if_pos found] at member
        rcases List.mem_cons.mp member with rfl | behind
        · exact List.not_mem_nil
        · exact inductionHypothesis behind
      · rw [if_neg found] at member
        cases pieces : splitAt separator rest with
        | nil => exact (splitAt_ne_nil separator rest pieces).elim
        | cons first others =>
            rw [pieces] at member inductionHypothesis
            rcases List.mem_cons.mp member with rfl | behind
            · rw [List.mem_cons, not_or]
              exact ⟨fun same => found same.symm, inductionHypothesis List.mem_cons_self⟩
            · exact inductionHypothesis (List.mem_cons_of_mem first behind)

/-! ### Pieces between tokens -/

variable {token replacement : List Char}

/-- The pieces of a text between the occurrences of a token, from left to right.  A piece
ends where the token first occurs, and the next one begins behind that occurrence. -/
inductive Pieces (token : List Char) : List Char → List (List Char) → Prop where
  | last {text : List Char} (absent : ¬ token <:+: text) : Pieces token text [text]
  | next {piece rest : List Char} {others : List (List Char)}
      (first : ∀ before after, piece ++ (token ++ rest) = before ++ (token ++ after) →
        piece.length ≤ before.length)
      (behind : Pieces token rest others) :
      Pieces token (piece ++ (token ++ rest)) (piece :: others)

private theorem exists_first {text : List Char} (occurs : token <:+: text) :
    ∃ piece rest, text = piece ++ (token ++ rest) ∧
      ∀ before after, text = before ++ (token ++ after) → piece.length ≤ before.length := by
  induction text with
  | nil =>
      have empty := List.infix_nil.mp occurs
      exact ⟨[], [], by rw [empty]; rfl, fun _ _ _ => Nat.zero_le _⟩
  | cons c text inductionHypothesis =>
      by_cases here : token <+: c :: text
      · obtain ⟨rest, same⟩ := here
        exact ⟨[], rest, same.symm, fun _ _ _ => Nat.zero_le _⟩
      · have later := (List.infix_cons_iff.mp occurs).resolve_left here
        obtain ⟨piece, rest, same, first⟩ := inductionHypothesis later
        refine ⟨c :: piece, rest, congrArg (c :: ·) same, ?_⟩
        intro before after split
        cases before with
        | nil => exact (here ⟨after, split.symm⟩).elim
        | cons d before => exact Nat.succ_le_succ (first before after (List.cons.inj split).2)

theorem exists_pieces (filled : token ≠ []) (text : List Char) :
    ∃ pieces, Pieces token text pieces := by
  by_cases occurs : token <:+: text
  · obtain ⟨piece, rest, same, first⟩ := exists_first occurs
    have shorter : rest.length < text.length := by
      have some := List.length_pos_of_ne_nil filled
      rw [same, List.length_append, List.length_append]
      omega
    obtain ⟨others, behind⟩ := exists_pieces filled rest
    rw [same] at first ⊢
    exact ⟨piece :: others, .next first behind⟩
  · exact ⟨[text], .last occurs⟩
termination_by text.length

theorem Pieces.unique {text : List Char} {pieces others : List (List Char)}
    (cut : Pieces token text pieces) (again : Pieces token text others) : others = pieces := by
  induction cut generalizing others with
  | last absent =>
      cases again with
      | last _ => rfl
      | next _ _ => exact (absent ⟨_, _, by rw [List.append_assoc]⟩).elim
  | @next piece rest pieces first behind inductionHypothesis =>
      generalize whole : piece ++ (token ++ rest) = text at again
      cases again with
      | last absent =>
          exact (absent ⟨piece, rest, by rw [List.append_assoc, whole]⟩).elim
      | @next other left others sooner further =>
          have sameLength := Nat.le_antisymm (first _ _ whole) (sooner _ _ whole.symm)
          obtain ⟨samePiece, sameRest⟩ := List.append_inj whole sameLength
          have behindToken := List.append_cancel_left sameRest
          subst samePiece behindToken
          rw [inductionHypothesis further]

/-! ### Replacing -/

theorem mem_replaceAfter {c : Char} {skip : Nat} {text : List Char}
    (member : c ∈ replaceAfter token replacement skip text) : c ∈ replacement ∨ c ∈ text := by
  induction text generalizing skip with
  | nil =>
      rw [replaceAfter] at member
      cases member
  | cons first rest inductionHypothesis =>
      cases skip with
      | succ skip =>
          rw [replaceAfter] at member
          exact (inductionHypothesis member).imp_right (List.mem_cons_of_mem first)
      | zero =>
          rw [replaceAfter] at member
          by_cases found : token.isPrefixOf (first :: rest) = true
          · rw [if_pos found] at member
            rcases List.mem_append.mp member with here | behind
            · exact Or.inl here
            · exact (inductionHypothesis behind).imp_right (List.mem_cons_of_mem first)
          · rw [if_neg found] at member
            rcases List.mem_cons.mp member with here | behind
            · exact Or.inr (List.mem_cons.mpr (Or.inl here))
            · exact (inductionHypothesis behind).imp_right (List.mem_cons_of_mem first)

private theorem replace_of_absent {text : List Char} (absent : ¬ token <:+: text) :
    replace token replacement text = text := by
  induction text with
  | nil => rfl
  | cons c rest inductionHypothesis =>
      rw [List.infix_cons_iff, not_or] at absent
      have onward := inductionHypothesis absent.2
      rw [replace] at onward ⊢
      rw [replaceAfter, if_neg, onward]
      rw [List.isPrefixOf_iff_prefix]
      exact absent.1

/-- No occurrence of a token lies over the seam between two texts. -/
def Apart (token first second : List Char) : Prop :=
  ∀ inside behind, token = inside ++ behind → inside <:+ first → behind <+: second →
    inside = [] ∨ behind = []

theorem Apart.of_cons {c : Char} {first second : List Char}
    (apart : Apart token (c :: first) second) : Apart token first second := by
  intro inside behind split ends starts
  exact apart inside behind split (ends.trans (List.suffix_cons c first)) starts

theorem Apart.prefix_of_append {first second : List Char} (apart : Apart token first second)
    (filled : first ≠ []) (starts : token <+: first ++ second) : token <+: first := by
  obtain ⟨rest, same⟩ := starts
  rcases List.append_eq_append_iff.mp same with ⟨part, splitFirst, _⟩ | ⟨part, splitToken, splitSecond⟩
  · exact ⟨part, splitFirst.symm⟩
  · rcases apart first part splitToken List.suffix_rfl ⟨rest, splitSecond.symm⟩ with empty | empty
    · exact (filled empty).elim
    · rw [splitToken, empty, List.append_nil]

private theorem replaceAfter_append {skip : Nat} {first second : List Char}
    (apart : Apart token first second) (inside : skip ≤ first.length) :
    replaceAfter token replacement skip (first ++ second)
      = replaceAfter token replacement skip first ++ replace token replacement second := by
  induction first generalizing skip with
  | nil =>
      cases Nat.le_zero.mp inside
      rfl
  | cons c first inductionHypothesis =>
      have onward {skip : Nat} := @inductionHypothesis skip apart.of_cons
      cases skip with
      | succ skip => exact onward (Nat.le_of_succ_le_succ inside)
      | zero =>
          rw [List.cons_append, replaceAfter, replaceAfter]
          by_cases here : token <+: c :: first
          · have longer := here.length_le
            have whole : token <+: c :: (first ++ second) := here.trans ⟨second, rfl⟩
            rw [if_pos (List.isPrefixOf_iff_prefix.mpr here),
              if_pos (List.isPrefixOf_iff_prefix.mpr whole), onward, List.append_assoc]
            rw [List.length_cons] at longer
            omega
          · rw [if_neg, if_neg, onward (Nat.zero_le _), List.cons_append]
            · rwa [List.isPrefixOf_iff_prefix]
            · rw [List.isPrefixOf_iff_prefix]
              exact fun starts => here (apart.prefix_of_append (List.cons_ne_nil c first) starts)

theorem replace_append {first second : List Char} (apart : Apart token first second) :
    replace token replacement (first ++ second)
      = replace token replacement first ++ replace token replacement second :=
  replaceAfter_append apart (Nat.zero_le _)

/-- A text that does not begin or end with a character of the token. -/
structure Guarded (token text : List Char) : Prop where
  first : ∃ c rest, text = c :: rest ∧ c ∉ token
  last : ∃ front c, text = front ++ [c] ∧ c ∉ token

theorem Guarded.of_parts {text opening behind before closing : List Char}
    (starts : text = opening ++ behind) (ends : text = before ++ closing)
    (opens : opening ≠ []) (closes : closing ≠ []) (openingOutside : ∀ c, c ∈ opening → c ∉ token)
    (closingOutside : ∀ c, c ∈ closing → c ∉ token) : Guarded token text := by
  obtain ⟨first, others, sameOpening⟩ := List.exists_cons_of_ne_nil opens
  obtain ⟨front, last, sameClosing⟩ := (List.eq_nil_or_concat closing).resolve_left closes
  rw [List.concat_eq_append] at sameClosing
  constructor
  · refine ⟨first, others ++ behind, by rw [starts, sameOpening]; rfl, openingOutside first ?_⟩
    rw [sameOpening]
    exact List.mem_cons_self
  · refine ⟨before ++ front, last, ?_, closingOutside last ?_⟩
    · rw [ends, sameClosing, List.append_assoc]
    · rw [sameClosing]
      exact List.mem_append_right front List.mem_cons_self

theorem Guarded.apart_front {text : List Char} (guarded : Guarded token text)
    (before after : List Char) : Apart token before (text ++ after) := by
  obtain ⟨c, rest, same, outside⟩ := guarded.first
  intro inside behind split _ starts
  cases behind with
  | nil => exact Or.inr rfl
  | cons d behind =>
      rw [same, List.cons_append, List.cons_prefix_cons] at starts
      rw [split, starts.1] at outside
      exact (outside (List.mem_append_right inside List.mem_cons_self)).elim

theorem Guarded.apart_back {text : List Char} (guarded : Guarded token text)
    (after : List Char) : Apart token text after := by
  obtain ⟨front, c, same, outside⟩ := guarded.last
  intro inside behind split ends _
  rcases List.eq_nil_or_concat inside with empty | ⟨others, d, last⟩
  · exact Or.inl empty
  · rw [List.concat_eq_append] at last
    obtain ⟨skipped, whole⟩ := ends
    rw [same, last, ← List.append_assoc] at whole
    have sameLast := List.singleton_inj.mp (List.append_inj' whole rfl).2
    rw [split, last, ← sameLast] at outside
    exact (outside (by simp)).elim

/-- A guarded text without the token stays, and all around it is replaced by itself. -/
theorem replace_guarded {part : List Char} (guarded : Guarded token part)
    (absent : ¬ token <:+: part) (before after : List Char) :
    replace token replacement (before ++ (part ++ after))
      = replace token replacement before ++ (part ++ replace token replacement after) := by
  rw [replace_append (guarded.apart_front before after), replace_append (guarded.apart_back after),
    replace_of_absent absent]

/-- A character that is not in the token stays, and so does what stands around it. -/
theorem replace_around (filled : token ≠ []) {c : Char} (outside : c ∉ token)
    (before after : List Char) :
    replace token replacement (before ++ c :: after)
      = replace token replacement before ++ c :: replace token replacement after := by
  have guarded : Guarded token [c] := ⟨⟨c, [], rfl, outside⟩, ⟨[], c, rfl, outside⟩⟩
  have absent : ¬ token <:+: [c] := by
    intro occurs
    obtain ⟨d, member⟩ := List.exists_mem_of_ne_nil token filled
    exact outside (List.mem_singleton.mp (occurs.subset member) ▸ member)
  exact replace_guarded guarded absent before after

theorem splitAt_replace {separator : Char} (filled : token ≠ []) (outside : separator ∉ token)
    (unplaced : separator ∉ replacement) (text : List Char) :
    splitAt separator (replace token replacement text)
      = (splitAt separator text).map (replace token replacement) := by
  by_cases found : separator ∈ text
  · obtain ⟨before, after, same, absent⟩ := List.eq_append_cons_of_mem found
    have shorter : after.length < text.length := by
      rw [same, List.length_append, List.length_cons]
      omega
    have onward := splitAt_replace filled outside unplaced after
    have kept : separator ∉ replace token replacement before := fun member =>
      (mem_replaceAfter member).elim unplaced absent
    rw [same, replace_around filled outside, splitAt_append, splitAt_append, onward,
      splitAt_of_absent absent, splitAt_of_absent kept]
    rfl
  · have kept : separator ∉ replace token replacement text := fun member =>
      (mem_replaceAfter member).elim unplaced found
    rw [splitAt_of_absent found, splitAt_of_absent kept]
    rfl
termination_by text.length

private theorem replaceAfter_skipped (skipped rest : List Char) :
    replaceAfter token replacement skipped.length (skipped ++ rest)
      = replace token replacement rest := by
  induction skipped with
  | nil => rfl
  | cons c skipped inductionHypothesis => exact inductionHypothesis

private theorem replace_token (filled : token ≠ []) (rest : List Char) :
    replace token replacement (token ++ rest)
      = replacement ++ replace token replacement rest := by
  obtain ⟨c, others, same⟩ := List.exists_cons_of_ne_nil filled
  have here : token.isPrefixOf (c :: (others ++ rest)) = true := by
    rw [List.isPrefixOf_iff_prefix, same]
    exact ⟨rest, rfl⟩
  have skips : token.length - 1 = others.length := by
    rw [same]
    rfl
  calc replace token replacement (token ++ rest)
      = replaceAfter token replacement 0 (c :: (others ++ rest)) := by rw [same]; rfl
    _ = replacement ++ replaceAfter token replacement others.length (others ++ rest) := by
        rw [replaceAfter, if_pos here, skips]
    _ = replacement ++ replace token replacement rest := by rw [replaceAfter_skipped]

theorem replace_first {piece rest : List Char} (filled : token ≠ [])
    (first : ∀ before after, piece ++ (token ++ rest) = before ++ (token ++ after) →
      piece.length ≤ before.length) :
    replace token replacement (piece ++ (token ++ rest))
      = piece ++ (replacement ++ replace token replacement rest) := by
  have apart : Apart token piece (token ++ rest) := by
    intro inside behind split ends starts
    obtain ⟨before, splitPiece⟩ := ends
    obtain ⟨after, splitRest⟩ := starts
    have early := first before after (by
      rw [← splitRest, ← splitPiece, split]
      simp only [List.append_assoc])
    rw [← splitPiece, List.length_append] at early
    exact Or.inl (List.length_eq_zero_iff.mp (by omega))
  have absent : ¬ token <:+: piece := by
    rintro ⟨before, after, within⟩
    have some := List.length_pos_of_ne_nil filled
    have early := first before (after ++ (token ++ rest)) (by
      rw [← within]
      simp only [List.append_assoc])
    rw [← within, List.length_append, List.length_append] at early
    omega
  rw [replace_append apart, replace_of_absent absent, replace_token filled]

/-- Replacing a token joins the pieces between its occurrences. -/
theorem Pieces.replace_eq {text : List Char} {pieces : List (List Char)} (filled : token ≠ [])
    (cut : Pieces token text pieces) :
    replace token replacement text = replacement.intercalate pieces := by
  induction cut with
  | last absent => rw [replace_of_absent absent, List.intercalate_singleton]
  | @next piece rest others first behind inductionHypothesis =>
      rw [replace_first filled first, inductionHypothesis]
      cases behind with
      | last _ => rw [List.intercalate_cons_cons, List.append_assoc]
      | next _ _ => rw [List.intercalate_cons_cons, List.append_assoc]

end RemoteQuery.Text
