import RemoteQuery.Proofs.Url.Encode
import RemoteQuery.Url.Basic
set_option autoImplicit false

/-! Paths that segments are pushed to.  A path of encoded segments decodes to the path of
the plain ones.  A segment stands in a path as it was given unless it is empty, is resolved
as dots, or holds a character that URLs are read without; a path that such a segment is
pushed to is shorter than it should be. -/

namespace RemoteQuery.Url

/-- A segment that a path holds as it was given. -/
structure StandsInPath (segment : List Char) : Prop where
  nonempty : segment ≠ []
  notDot : segment ≠ ['.']
  notDots : segment ≠ ['.', '.']
  clean : ∀ c, c ∈ segment → isIgnored c = false

theorem stands_iff (segment : List Char) :
    (segment ≠ [] ∧ segment ≠ ['.'] ∧ segment ≠ ['.', '.'] ∧
        (segment.all fun c => !isIgnored c) = true) ↔ StandsInPath segment := by
  constructor
  · rintro ⟨nonempty, notDot, notDots, clean⟩
    exact ⟨nonempty, notDot, notDots, fun c member =>
      Bool.not_eq_true' _ ▸ List.all_eq_true.mp clean c member⟩
  · rintro ⟨nonempty, notDot, notDots, clean⟩
    refine ⟨nonempty, notDot, notDots, List.all_eq_true.mpr fun c member => ?_⟩
    rw [clean c member]
    rfl

instance (segment : List Char) : Decidable (StandsInPath segment) :=
  decidable_of_iff _ (stands_iff segment)

def encoded (texts : List (List Char)) : Segments := texts.map (encode inSegment)

theorem encoded_append (first second : List (List Char)) :
    encoded (first ++ second) = encoded first ++ encoded second :=
  List.map_append

theorem percent_inSegment : inSegment '%' = true := rfl

/-! ### The text of a path -/

theorem pathText_cons (first : List Char) (others : Segments) :
    pathText (first :: others) = '/' :: (first ++ pathText others) :=
  List.flatMap_cons

theorem pathText_append (first second : Segments) :
    pathText (first ++ second) = pathText first ++ pathText second :=
  List.flatMap_append

theorem length_pathText_cons (first : List Char) (others : Segments) :
    (pathText (first :: others)).length = 1 + first.length + (pathText others).length := by
  rw [pathText_cons, List.length_cons, List.length_append]
  omega

private theorem length_pathText_append (segments : Segments) (segment : List Char) :
    (pathText (segments ++ [segment])).length
      = (pathText segments).length + (1 + segment.length) := by
  rw [pathText_append, List.length_append, length_pathText_cons]
  rfl

private theorem decodeAfter_slash (rest : List Char) :
    decodeAfter 0 ('/' :: rest) = String.utf8EncodeChar '/' ++ decodeAfter 0 rest :=
  decodeAfter_other rest (by decide)

theorem decode_pathText_encoded (texts : List (List Char)) :
    decode (pathText (encoded texts)) = Text.bytesOf (pathText texts) := by
  rw [decode]
  induction texts with
  | nil => rfl
  | cons first others inductionHypothesis =>
      have parted : encoded (first :: others) = encode inSegment first :: encoded others := rfl
      rw [parted, pathText_cons, decodeAfter_slash, decodeAfter_encode percent_inSegment,
        inductionHypothesis, pathText_cons, Text.bytesOf_cons, Text.bytesOf_append]

/-! ### Segments of dots -/

private theorem decodeAfter_dot (rest : List Char) :
    decodeAfter 0 ('.' :: rest) = 46 :: decodeAfter 0 rest :=
  decodeAfter_other rest (by decide)

private theorem decodeAfter_smallDotCode (rest : List Char) :
    decodeAfter 0 ('%' :: '2' :: 'e' :: rest) = 46 :: decodeAfter 0 rest := rfl

private theorem decodeAfter_largeDotCode (rest : List Char) :
    decodeAfter 0 ('%' :: '2' :: 'E' :: rest) = 46 :: decodeAfter 0 rest := rfl

private theorem decode_singleDot {segment : List Char} (dot : isSingleDot segment = true) :
    decode segment = Text.bytesOf ['.'] := by
  obtain ⟨form, member, same⟩ := List.any_eq_true.mp dot
  rw [← eq_of_beq same, decode]
  simp only [List.mem_cons, List.not_mem_nil, or_false] at member
  rcases member with rfl | rfl | rfl
  · exact decodeAfter_dot []
  · exact decodeAfter_smallDotCode []
  · exact decodeAfter_largeDotCode []

private theorem decode_doubleDot {segment : List Char} (dots : isDoubleDot segment = true) :
    decode segment = Text.bytesOf ['.', '.'] := by
  obtain ⟨form, member, same⟩ := List.any_eq_true.mp dots
  rw [← eq_of_beq same, decode]
  have nothing : decodeAfter 0 [] = [] := rfl
  have bytes : Text.bytesOf ['.', '.'] = [46, 46] := by decide
  simp only [List.mem_cons, List.not_mem_nil, or_false] at member
  rcases member with rfl | rfl | rfl | rfl | rfl | rfl | rfl | rfl | rfl <;>
    simp only [String.reduceToList, decodeAfter_dot, decodeAfter_smallDotCode,
      decodeAfter_largeDotCode, nothing, bytes]

private theorem isSingleDot_encode {text : List Char} (notDot : text ≠ ['.']) :
    isSingleDot (encode inSegment text) = false := by
  apply Bool.eq_false_iff.mpr
  intro dot
  have same := decode_singleDot dot
  rw [decode_encode percent_inSegment] at same
  exact notDot (Text.bytesOf_injective same)

private theorem isDoubleDot_encode {text : List Char} (notDots : text ≠ ['.', '.']) :
    isDoubleDot (encode inSegment text) = false := by
  apply Bool.eq_false_iff.mpr
  intro dots
  have same := decode_doubleDot dots
  rw [decode_encode percent_inSegment] at same
  exact notDots (Text.bytesOf_injective same)

/-! ### Pushing a segment -/

def withoutIgnored (segment : List Char) : List Char := segment.filter fun c => !isIgnored c

private theorem withoutIgnored_of_clean {segment : List Char}
    (clean : ∀ c, c ∈ segment → isIgnored c = false) : withoutIgnored segment = segment := by
  apply List.filter_eq_self.mpr
  intro c member
  rw [clean c member]
  rfl

private theorem length_withoutIgnored_le (segment : List Char) :
    (withoutIgnored segment).length ≤ segment.length :=
  List.length_filter_le _ _

private theorem clean_of_length {segment : List Char}
    (whole : segment.length ≤ (withoutIgnored segment).length) :
    ∀ c, c ∈ segment → isIgnored c = false := by
  have all := List.length_filter_eq_length_iff.mp
    (Nat.le_antisymm (length_withoutIgnored_le segment) whole)
  intro c member
  exact Bool.not_eq_true' .. ▸ all c member

/-- The segments that another one is put behind; the empty segment of the root gives way. -/
def giveWay (segments : Segments) : Segments := if segments = [[]] then [] else segments

private theorem pushSegment_dots (segments : Segments) {segment : List Char}
    (dots : segment = ['.'] ∨ segment = ['.', '.']) :
    pushSegment segments segment = segments := by
  rw [pushSegment]
  apply if_pos
  simpa only [Bool.or_eq_true, decide_eq_true_eq] using dots

private theorem pushSegment_other (segments : Segments) {segment : List Char}
    (notDot : segment ≠ ['.']) (notDots : segment ≠ ['.', '.']) :
    pushSegment segments segment
      = addSegment (giveWay segments) (encode inSegment (withoutIgnored segment)) true := by
  rw [pushSegment]
  apply if_neg
  simpa only [Bool.or_eq_true, decide_eq_true_eq, not_or] using And.intro notDot notDots

theorem pushSegment_standing (segments : Segments) {segment : List Char}
    (stands : StandsInPath segment) :
    pushSegment segments segment = giveWay segments ++ encoded [segment] := by
  rw [pushSegment_other segments stands.notDot stands.notDots,
    withoutIgnored_of_clean stands.clean, addSegment, isDoubleDot_encode stands.notDots,
    isSingleDot_encode stands.notDot]
  rfl

private theorem giveWay_encoded (texts : List (List Char)) :
    ∃ left, giveWay (encoded texts) = encoded left ∧
      (pathText left).length ≤ (pathText texts).length := by
  rw [giveWay]
  by_cases root : encoded texts = [[]]
  · exact ⟨[], if_pos root, Nat.zero_le _⟩
  · exact ⟨texts, if_neg root, Nat.le_refl _⟩

private theorem dropLastSegment_encoded (texts : List (List Char)) :
    ∃ left, dropLastSegment (encoded texts) = encoded left ∧
      (pathText left).length ≤ (pathText texts).length := by
  have shorter : (pathText texts.dropLast).length ≤ (pathText texts).length := by
    rcases List.eq_nil_or_concat texts with empty | ⟨first, last, split⟩
    · rw [empty]
      exact Nat.le_refl _
    · rw [split, List.concat_eq_append, List.dropLast_concat, length_pathText_append]
      exact Nat.le_add_right _ _
  have dropped : (encoded texts).dropLast = encoded texts.dropLast := List.map_dropLast.symm
  rw [dropLastSegment]
  cases (encoded texts).getLast? with
  | none => exact ⟨[], rfl, Nat.zero_le _⟩
  | some last =>
      simp only
      cases isDriveLetter last with
      | true => exact ⟨texts, if_pos rfl, Nat.le_refl _⟩
      | false => exact ⟨texts.dropLast, dropped, shorter⟩

private theorem addSegment_encoded (texts : List (List Char)) (text : List Char) :
    ∃ after, addSegment (encoded texts) (encode inSegment text) true = encoded after ∧
      (pathText after).length ≤ (pathText texts).length + (1 + text.length) := by
  rw [addSegment]
  cases dots : isDoubleDot (encode inSegment text) with
  | true =>
      obtain ⟨left, same, bound⟩ := dropLastSegment_encoded texts
      have closed := length_pathText_append left []
      rw [List.length_nil] at closed
      refine ⟨left ++ [[]], ?_, by omega⟩
      rw [if_pos rfl, same, encoded_append]
      rfl
  | false =>
      cases dot : isSingleDot (encode inSegment text) with
      | true =>
          have closed := length_pathText_append texts []
          rw [List.length_nil] at closed
          refine ⟨texts ++ [[]], ?_, by omega⟩
          rw [encoded_append]
          rfl
      | false =>
          have added := length_pathText_append texts text
          refine ⟨texts ++ [text], ?_, by omega⟩
          rw [encoded_append]
          rfl

/-- A segment adds at most itself and a slash, and less if it does not stand. -/
theorem pushSegment_encoded (texts : List (List Char)) {segment : List Char}
    (nonempty : segment ≠ []) :
    ∃ after, pushSegment (encoded texts) segment = encoded after ∧
      (pathText after).length ≤ (pathText texts).length + (1 + segment.length) ∧
      (¬ StandsInPath segment →
        (pathText after).length < (pathText texts).length + (1 + segment.length)) := by
  by_cases dots : segment = ['.'] ∨ segment = ['.', '.']
  · exact ⟨texts, pushSegment_dots _ dots, by omega, fun _ => by omega⟩
  · obtain ⟨notDot, notDots⟩ := not_or.mp dots
    obtain ⟨left, way, leftBound⟩ := giveWay_encoded texts
    obtain ⟨after, added, bound⟩ := addSegment_encoded left (withoutIgnored segment)
    have kept := length_withoutIgnored_le segment
    refine ⟨after, ?_, by omega, ?_⟩
    · rw [pushSegment_other _ notDot notDots, way, added]
    · intro unfit
      apply Nat.lt_of_not_le
      intro long
      have whole : segment.length ≤ (withoutIgnored segment).length := by omega
      exact unfit ⟨nonempty, notDot, notDots, clean_of_length whole⟩

/-! ### Pushing segments one after the other -/

theorem encode_ne_nil {text : List Char} (nonempty : text ≠ []) : encode inSegment text ≠ [] :=
  fun empty => nonempty (encode_injective percent_inSegment empty)

theorem append_encoded_ne_root (segments : Segments) {text : List Char} (nonempty : text ≠ []) :
    segments ++ encoded [text] ≠ [[]] := by
  intro root
  have last := congrArg List.getLast? root
  rw [encoded, List.map_singleton, List.getLast?_concat] at last
  exact encode_ne_nil nonempty (Option.some.inj last)

theorem foldl_standing {pieces : List (List Char)} (segments : Segments)
    (closed : segments ≠ [[]]) (stand : ∀ piece, piece ∈ pieces → StandsInPath piece) :
    pieces.foldl pushSegment segments = segments ++ encoded pieces := by
  induction pieces generalizing segments with
  | nil => exact (List.append_nil segments).symm
  | cons piece others inductionHypothesis =>
      have stands := stand piece List.mem_cons_self
      have stillClosed := append_encoded_ne_root segments stands.nonempty
      rw [List.foldl_cons, pushSegment_standing _ stands, giveWay, if_neg closed,
        inductionHypothesis _ stillClosed fun other member =>
          stand other (List.mem_cons_of_mem piece member), List.append_assoc]
      rfl

/-- A path grows by at most what is pushed, and by less if anything does not stand. -/
theorem foldl_encoded {pieces : List (List Char)} (texts : List (List Char))
    (nonempty : ∀ piece, piece ∈ pieces → piece ≠ []) :
    ∃ after, pieces.foldl pushSegment (encoded texts) = encoded after ∧
      (pathText after).length ≤ (pathText texts).length + (pathText pieces).length ∧
      (∀ piece, piece ∈ pieces → ¬ StandsInPath piece →
        (pathText after).length < (pathText texts).length + (pathText pieces).length) := by
  induction pieces generalizing texts with
  | nil => exact ⟨texts, rfl, Nat.le_refl _, nofun⟩
  | cons piece others inductionHypothesis =>
      obtain ⟨middle, pushed, grown, unfit⟩ :=
        pushSegment_encoded texts (nonempty piece List.mem_cons_self)
      obtain ⟨after, same, bound, strict⟩ := inductionHypothesis middle fun other member =>
        nonempty other (List.mem_cons_of_mem piece member)
      have length := length_pathText_cons piece others
      refine ⟨after, ?_, by omega, ?_⟩
      · rw [List.foldl_cons, pushed, same]
      · intro other member fails
        rcases List.mem_cons.mp member with here | behind
        · have shorter := unfit (here ▸ fails)
          omega
        · have shorter := strict other behind fails
          omega

end RemoteQuery.Url
