import RemoteQuery.Proofs.Literal.Numeral
import RemoteQuery.Proofs.Literal.Positions
set_option autoImplicit false

/-! Comments and literals.  No literal opens a comment by itself, and two literals side by side
do not either.  But the sign of a negative number goes together with a minus that the caller
has written directly in front of its placeholder.  Such a pair is the only opening of a
comment that is not in the statement already. -/

namespace RemoteQuery

namespace Literal

/-- A text in which some other character comes behind every minus. -/
def MinusesApart (text : List Char) : Prop :=
  ∀ front back, text = front ++ '-' :: back → ∃ next rest, back = next :: rest ∧ next ≠ '-'

end Literal

namespace Binding

/-- The characters of two that open a comment. -/
inductive Opener : Char → Char → Prop where
  | line : Opener '-' '-'
  | block : Opener '/' '*'

/-- A comment is opened behind the front of a text, outside of quotes. -/
def OpensBehind (text front : List Char) : Prop :=
  isInside front = false ∧
    ∃ first second back, Opener first second ∧ text = front ++ first :: second :: back

/-- Every placeholder with a binding stands outside of quotes. -/
def PlacedOutside (sql : List Char) (bindings : List Binding) : Prop :=
  ∀ before after, sql = before ++ placeholder :: after →
    placeholders before < bindings.length → isInside before = false

/-- Both characters of an opening are in the statement, side by side. -/
def WrittenOpener (sql : List Char) (bindings : List Binding) (front : List Char) : Prop :=
  ∃ before, OpensBehind sql before ∧ front = substitute .escapeQuotes before bindings

/-- A minus in the statement stands in front of a literal that begins with one. -/
def JoinedOpener (sql : List Char) (bindings : List Binding) (front : List Char) : Prop :=
  ∃ before after binding, sql = before ++ '-' :: placeholder :: after ∧
    bindings[placeholders before]? = some binding ∧
    (binding.literal .escapeQuotes).head? = some '-' ∧
    front = substitute .escapeQuotes before bindings

/-- Where comments are opened once literals are put. -/
structure OpensComments (sql : List Char) (bindings : List Binding) : Prop where
  opener_iff : ∀ front, OpensBehind (substitute .escapeQuotes sql bindings) front ↔
    WrittenOpener sql bindings front ∨ JoinedOpener sql bindings front
  written_iff :
    (∀ front, OpensBehind (substitute .escapeQuotes sql bindings) front →
      WrittenOpener sql bindings front) ↔ ∀ front, ¬ JoinedOpener sql bindings front

end Binding

namespace Literal

/-! ### Signs -/

private theorem minusesApart_of_absent {text : List Char} (absent : '-' ∉ text) :
    MinusesApart text := by
  intro front back split
  exact absurd (split ▸ List.mem_append_right front List.mem_cons_self) absent

theorem MinusesApart.append {first second : List Char} (firstApart : MinusesApart first)
    (secondApart : MinusesApart second) : MinusesApart (first ++ second) := by
  intro front back split
  rcases List.append_eq_append_iff.mp split with ⟨part, _, behind⟩ | ⟨part, within, behind⟩
  · exact secondApart part back behind
  · cases part with
    | nil => exact secondApart [] back behind.symm
    | cons minus part =>
        rw [List.cons_append] at behind
        obtain ⟨isMinus, rest⟩ := List.cons.inj behind
        rw [← isMinus] at within
        obtain ⟨next, others, same, different⟩ := firstApart front part within
        refine ⟨next, others ++ second, ?_, different⟩
        rw [rest, same, List.cons_append]

private theorem minus_not_mem_of_blank {text : List Char}
    (blank : ∀ c, c ∈ text → Text.isBlank c = true) : '-' ∉ text := by
  intro member
  exact absurd (blank '-' member) (by decide)

private theorem minusesApart_sign_append {sign size : List Char} (isSign : IsSign sign)
    (filled : size ≠ []) (unsigned : '-' ∉ size) : MinusesApart (sign ++ size) := by
  have behind := minusesApart_of_absent unsigned
  rcases isSign with rfl | rfl | rfl
  · exact behind
  · exact (minusesApart_of_absent (by decide)).append behind
  · obtain ⟨next, rest, rfl⟩ := List.exists_cons_of_ne_nil filled
    have different : next ≠ '-' := fun same => unsigned (same ▸ List.mem_cons_self)
    intro front back split
    cases front with
    | nil => exact ⟨next, rest, (List.cons.inj split).2.symm, different⟩
    | cons c front => exact behind front back (List.cons.inj split).2

theorem IsSigned.minusesApart {sign size : List Char} (signed : IsSigned sign size) :
    MinusesApart (sign ++ size) := by
  obtain ⟨digit, member, _⟩ := signed.digit
  apply minusesApart_sign_append signed.sign (List.ne_nil_of_mem member)
  intro minus
  exact absurd (signed.chars '-' minus) (by decide)

theorem IsExponent.minusesApart {exponent : List Char} (isExponent : IsExponent exponent) :
    MinusesApart exponent := by
  rcases isExponent with rfl | ⟨mark, sign, digits, rfl, marks, isSign, filled, isDigits⟩
  · exact minusesApart_of_absent List.not_mem_nil
  · have marked : '-' ∉ [mark] := by
      rcases marks with rfl | rfl <;> decide
    have unsigned : '-' ∉ digits := fun minus => absurd (isDigits '-' minus) (by decide)
    exact (minusesApart_of_absent marked).append (minusesApart_sign_append isSign filled unsigned)

private theorem minusesApart_of_isNumeric {text : List Char} (numeric : isNumeric text = true) :
    MinusesApart text := by
  obtain ⟨front, sign, size, exponent, back, rfl, blankFront, decimal, isExponent, blankBack⟩ :=
    isNumeric_form numeric
  have outerFront := minusesApart_of_absent (minus_not_mem_of_blank blankFront)
  have outerBack := minusesApart_of_absent (minus_not_mem_of_blank blankBack)
  exact (outerFront.append (decimal.minusesApart.append isExponent.minusesApart)).append outerBack

end Literal

namespace Binding

variable {policy : LiteralPolicy} {sql : List Char} {bindings : List Binding}

private theorem minusesApart_literal {binding : Binding}
    (bare : Literal.IsBare (binding.literal policy)) :
    Literal.MinusesApart (binding.literal policy) := by
  rcases literal_numeral_or_quoted policy binding with numeral | ⟨content, same⟩
  · exact Literal.minusesApart_of_isNumeric (Literal.isNumeric_of_isNumeral numeral)
  · rw [same] at bare
    exact absurd List.mem_cons_self bare.unquoted

/-- Outside of quotes, what may open a comment in a literal is followed by something else. -/
theorem literal_opensNothing {binding : Binding} (safe : binding.IsSafe policy)
    {front back : List Char} {first second : Char} (opener : Opener first second)
    (split : binding.literal policy = front ++ first :: back)
    (outside : quoteState false front = false) :
    ∃ next rest, back = next :: rest ∧ next ≠ second := by
  have notQuote : first ≠ '\'' := by
    cases opener <;> decide
  rcases literal_form safe with bare | ⟨content, paired, same⟩
  · cases opener with
    | line => exact minusesApart_literal bare front back split
    | block =>
        have isBare := bare.chars '/' (split ▸ List.mem_append_right front List.mem_cons_self)
        exact absurd isBare (by decide)
  · rw [same, Literal.quote] at split
    cases front with
    | nil => exact absurd (List.cons.inj split).1.symm notQuote
    | cons quote front =>
        rw [List.cons_append] at split
        obtain ⟨isQuote, within⟩ := List.cons.inj split
        rcases List.eq_nil_or_concat back with rfl | ⟨before, last, rfl⟩
        · have closing := (List.append_inj' within rfl).2
          exact absurd (List.cons.inj closing).1.symm notQuote
        · rw [List.concat_eq_append, ← List.cons_append, ← List.append_assoc] at within
          have contentIs := (List.append_inj' within rfl).1
          rw [← isQuote, quoteState_quote, Bool.not_false,
            paired.quoteState_before true contentIs notQuote] at outside
          cases outside

theorem isSafe_escapeQuotes (binding : Binding) : binding.IsSafe .escapeQuotes := by
  cases binding with
  | integer number => trivial
  | real number => trivial
  | flag value => trivial
  | text value => exact Or.inl rfl

theorem literal_ne_nil {binding : Binding} (safe : binding.IsSafe policy) :
    binding.literal policy ≠ [] := by
  rcases literal_form safe with bare | ⟨content, _, same⟩
  · obtain ⟨c, member, _⟩ := bare.visible
    exact List.ne_nil_of_mem member
  · rw [same, Literal.quote]
    exact List.cons_ne_nil _ _

private theorem literal_head_ne_star {binding : Binding} (safe : binding.IsSafe policy)
    {rest : List Char} : binding.literal policy ≠ '*' :: rest := by
  intro starred
  rcases literal_form safe with bare | ⟨content, _, same⟩
  · exact absurd (bare.chars '*' (starred ▸ List.mem_cons_self)) (by decide)
  · rw [same, Literal.quote] at starred
    exact absurd (List.cons.inj starred).1 (by decide)

/-! ### Where the characters of an opening come from -/

/-- An opening behind the front of a text with its literals. -/
inductive Origin (sql : List Char) (bindings : List Binding) (front : List Char)
    (first second : Char) : Prop where
  | written (before after : List Char) (text : sql = before ++ first :: second :: after)
      (here : front = substitute .escapeQuotes before bindings)
  | joined (signs : JoinedOpener sql bindings front)

/-- Every placeholder with a binding stands outside of quotes, where `inside` tells the state
of the place in front of the text. -/
def PlacedFrom (inside : Bool) (sql : List Char) (bindings : List Binding) : Prop :=
  ∀ before after, sql = before ++ placeholder :: after →
    placeholders before < bindings.length → quoteState inside before = false

theorem PlacedFrom.behind_placeholder {inside : Bool} {binding : Binding}
    (placed : PlacedFrom inside (placeholder :: sql) (binding :: bindings)) :
    inside = false ∧ PlacedFrom false sql bindings := by
  have here : inside = false := placed [] sql rfl (Nat.zero_lt_succ _)
  refine ⟨here, ?_⟩
  intro before after text bound
  have state := placed (placeholder :: before) after (congrArg (placeholder :: ·) text) (by
    rw [placeholders_placeholder]
    exact Nat.succ_lt_succ bound)
  rwa [quoteState_other inside before (by decide), here] at state

theorem PlacedFrom.behind_other {inside : Bool} {c : Char} (different : c ≠ placeholder)
    (placed : PlacedFrom inside (c :: sql) bindings) :
    PlacedFrom (if c = '\'' then !inside else inside) sql bindings := by
  intro before after text bound
  have state := placed (c :: before) after (congrArg (c :: ·) text)
    (by rwa [placeholders_other different])
  rwa [quoteState] at state

variable {front : List Char} {first second : Char}

theorem Origin.behind_placeholder {binding : Binding}
    (origin : Origin sql bindings front first second) :
    Origin (placeholder :: sql) (binding :: bindings)
      (binding.literal .escapeQuotes ++ front) first second := by
  have moved (before : List Char) (here : front = substitute .escapeQuotes before bindings) :
      binding.literal .escapeQuotes ++ front
        = substitute .escapeQuotes (placeholder :: before) (binding :: bindings) := by
    rw [here, substitute, if_pos rfl]
  cases origin with
  | written before after text here =>
      exact .written (placeholder :: before) after (congrArg (placeholder :: ·) text)
        (moved before here)
  | joined signs =>
      obtain ⟨before, after, other, text, bound, signed, here⟩ := signs
      refine .joined ⟨placeholder :: before, after, other, congrArg (placeholder :: ·) text, ?_,
        signed, moved before here⟩
      rw [placeholders_placeholder, List.getElem?_cons_succ, bound]

theorem Origin.behind_other {c : Char} {binding : Binding} (different : c ≠ placeholder)
    (origin : Origin sql (binding :: bindings) front first second) :
    Origin (c :: sql) (binding :: bindings) (c :: front) first second := by
  have moved (before : List Char)
      (here : front = substitute .escapeQuotes before (binding :: bindings)) :
      c :: front = substitute .escapeQuotes (c :: before) (binding :: bindings) := by
    rw [here, substitute, if_neg different]
  cases origin with
  | written before after text here =>
      exact .written (c :: before) after (congrArg (c :: ·) text) (moved before here)
  | joined signs =>
      obtain ⟨before, after, other, text, bound, signed, here⟩ := signs
      refine .joined ⟨c :: before, after, other, congrArg (c :: ·) text, ?_, signed,
        moved before here⟩
      rw [placeholders_other different, bound]

theorem Origin.of_head {c : Char} {binding : Binding} {back : List Char}
    (opener : Opener c second)
    (same : substitute .escapeQuotes sql (binding :: bindings) = second :: back) :
    Origin (c :: sql) (binding :: bindings) [] c second := by
  have nothing : [] = substitute .escapeQuotes [] (binding :: bindings) := rfl
  cases sql with
  | nil => cases same
  | cons next rest =>
      rw [substitute] at same
      by_cases found : next = placeholder
      · rw [if_pos found] at same
        obtain ⟨head, others, literalIs⟩ :=
          List.exists_cons_of_ne_nil (literal_ne_nil (isSafe_escapeQuotes binding))
        rw [literalIs, List.cons_append] at same
        have headIs := (List.cons.inj same).1
        rw [headIs] at literalIs
        cases opener with
        | line =>
            have signed := congrArg List.head? literalIs
            exact .joined ⟨[], rest, binding, by rw [found]; rfl, rfl, signed, nothing⟩
        | block => exact absurd literalIs (literal_head_ne_star (isSafe_escapeQuotes binding))
      · rw [if_neg found] at same
        exact .written [] rest (by rw [(List.cons.inj same).1]; rfl) nothing

/-- Every opening comes from the statement, or from a minus in front of a literal with one.
The state at the place in front of the text goes along with the induction. -/
theorem opener_origin {inside : Bool} (placed : PlacedFrom inside sql bindings)
    {back : List Char} (opener : Opener first second)
    (same : substitute .escapeQuotes sql bindings = front ++ first :: second :: back)
    (outside : quoteState inside front = false) : Origin sql bindings front first second := by
  induction sql generalizing bindings inside front with
  | nil => cases bindings <;> simp [substitute] at same
  | cons c rest inductionHypothesis =>
      cases bindings with
      | nil =>
          rw [substitute] at same
          exact .written front back same (by rw [substitute])
      | cons binding others =>
          rw [substitute] at same
          by_cases found : c = placeholder
          · rw [if_pos found] at same
            rw [found] at placed ⊢
            obtain ⟨here, behind⟩ := placed.behind_placeholder
            have safe := isSafe_escapeQuotes binding
            rw [here] at outside
            rcases List.append_eq_append_iff.mp same with ⟨part, frontIs, restIs⟩ |
                ⟨part, literalIs, openerIs⟩
            · rw [frontIs, quoteState_append, literal_quoteState safe] at outside
              rw [frontIs]
              exact (inductionHypothesis behind restIs outside).behind_placeholder
            · cases part with
              | nil =>
                  have again : Origin rest others [] first second :=
                    inductionHypothesis behind openerIs.symm rfl
                  have moved : Origin (placeholder :: rest) (binding :: others)
                      (binding.literal .escapeQuotes ++ []) first second :=
                    again.behind_placeholder
                  rwa [literalIs, List.append_nil, List.append_nil] at moved
              | cons head part =>
                  obtain ⟨headIs, partIs⟩ := List.cons.inj openerIs
                  rw [← headIs] at literalIs
                  obtain ⟨next, more, same, different⟩ :=
                    literal_opensNothing safe opener literalIs outside
                  rw [same] at partIs
                  exact absurd (List.cons.inj partIs).1.symm different
          · rw [if_neg found] at same
            cases front with
            | nil =>
                obtain ⟨headIs, restIs⟩ := List.cons.inj same
                rw [headIs]
                exact .of_head opener restIs
            | cons head front =>
                obtain ⟨headIs, restIs⟩ := List.cons.inj same
                rw [← headIs] at outside ⊢
                rw [quoteState] at outside
                have behind := placed.behind_other found
                exact (inductionHypothesis behind restIs outside).behind_other found

/-! ### Statements with their literals -/

private theorem isInside_substitute (sql : List Char) (bindings : List Binding) :
    isInside (substitute .escapeQuotes sql bindings) = isInside sql :=
  substitute_quoteState (fun binding _ => isSafe_escapeQuotes binding) false

theorem Opener.unplaced (opener : Opener first second) : placeholder ∉ [first, second] := by
  cases opener <;> decide

theorem WrittenOpener.opens (written : WrittenOpener sql bindings front) :
    OpensBehind (substitute .escapeQuotes sql bindings) front := by
  obtain ⟨before, ⟨outside, first, second, after, opener, rfl⟩, rfl⟩ := written
  refine ⟨(isInside_substitute before bindings).trans outside, first, second, ?_, opener, ?_⟩
  · exact substitute .escapeQuotes after (bindings.drop (placeholders before))
  · rw [substitute_append]
    exact congrArg (substitute .escapeQuotes before bindings ++ ·)
      (substitute_behind .escapeQuotes opener.unplaced after _)

theorem JoinedOpener.opens (placed : PlacedOutside sql bindings)
    (joined : JoinedOpener sql bindings front) :
    OpensBehind (substitute .escapeQuotes sql bindings) front := by
  obtain ⟨before, after, binding, rfl, bound, signed, rfl⟩ := joined
  obtain ⟨within, isBinding⟩ := List.getElem?_eq_some_iff.mp bound
  obtain ⟨rest, literalIs⟩ := List.head?_eq_some_iff.mp signed
  have count : placeholders (before ++ ['-']) = placeholders before := by
    rw [placeholders, placeholders, List.count_append]
    rfl
  have outside : isInside before = false := by
    have state := placed (before ++ ['-']) after (by rw [List.append_assoc]; rfl) (by rwa [count])
    rw [isInside, quoteState_append] at state
    exact state
  have moved : substitute .escapeQuotes ('-' :: placeholder :: after)
        (bindings.drop (placeholders before))
      = '-' :: '-' :: (rest
        ++ substitute .escapeQuotes after (bindings.drop (placeholders before + 1))) := by
    rw [List.drop_eq_getElem_cons within, isBinding, substitute, if_neg (by decide), substitute,
      if_pos rfl, literalIs]
    rfl
  have whole := substitute_append .escapeQuotes before ('-' :: placeholder :: after) bindings
  rw [moved] at whole
  exact ⟨(isInside_substitute before bindings).trans outside, '-', '-', _, .line, whole⟩

/-- A part of a statement is told from a longer one by its text with the literals. -/
theorem substitute_prefix_injective {before other : List Char} (part : before <+: sql)
    (otherPart : other <+: sql)
    (same : substitute .escapeQuotes before bindings = substitute .escapeQuotes other bindings) :
    before = other := by
  have nothing (more : List Char) (rest : List Binding)
      (gone : substitute .escapeQuotes more rest = []) : more = [] := by
    cases more with
    | nil => rfl
    | cons c more =>
        cases rest with
        | nil => cases gone
        | cons binding rest =>
            rw [substitute] at gone
            by_cases found : c = placeholder
            · rw [if_pos found] at gone
              exact absurd (List.append_eq_nil_iff.mp gone).1
                (literal_ne_nil (isSafe_escapeQuotes binding))
            · rw [if_neg found] at gone
              cases gone
  rcases List.prefix_or_prefix_of_prefix part otherPart with ⟨more, longer⟩ | ⟨more, longer⟩
  · rw [← longer, substitute_append] at same
    rw [← longer, nothing more _ (List.append_right_eq_self.mp same.symm), List.append_nil]
  · rw [← longer, substitute_append] at same
    rw [← longer, nothing more _ (List.append_right_eq_self.mp same), List.append_nil]

theorem opensBehind_substitute_iff (placed : PlacedOutside sql bindings) :
    OpensBehind (substitute .escapeQuotes sql bindings) front ↔
      WrittenOpener sql bindings front ∨ JoinedOpener sql bindings front := by
  constructor
  · rintro ⟨outside, first, second, back, opener, same⟩
    cases opener_origin placed opener same outside with
    | written before after text here =>
        rw [here, isInside_substitute] at outside
        exact Or.inl ⟨before, ⟨outside, first, second, after, opener, text⟩, here⟩
    | joined signs => exact Or.inr signs
  · rintro (written | joined)
    · exact written.opens
    · exact joined.opens placed

theorem JoinedOpener.not_written (joined : JoinedOpener sql bindings front) :
    ¬ WrittenOpener sql bindings front := by
  obtain ⟨before, after, _, text, _, _, here⟩ := joined
  rintro ⟨other, ⟨_, first, second, back, opener, otherText⟩, otherHere⟩
  have same : before = other :=
    substitute_prefix_injective ⟨_, text.symm⟩ ⟨_, otherText.symm⟩ (here.symm.trans otherHere)
  rw [same, otherText] at text
  have tails := List.cons.inj (List.append_cancel_left text)
  have placeholderIs := (List.cons.inj tails.2).1
  cases opener <;> exact absurd placeholderIs (by decide)

theorem written_of_opens_iff (placed : PlacedOutside sql bindings) :
    (∀ front, OpensBehind (substitute .escapeQuotes sql bindings) front →
      WrittenOpener sql bindings front) ↔ ∀ front, ¬ JoinedOpener sql bindings front := by
  constructor
  · intro written front joined
    exact joined.not_written (written front (joined.opens placed))
  · intro apart front opens
    exact ((opensBehind_substitute_iff placed).mp opens).resolve_right (apart front)

/-- With its literals a statement opens the comments that it opened before, and one wherever a
minus stands in front of a literal that begins with one. -/
theorem substitute_opensComments (placed : PlacedOutside sql bindings) :
    OpensComments sql bindings where
  opener_iff := fun _ => opensBehind_substitute_iff placed
  written_iff := written_of_opens_iff placed

private theorem placedOutside_of_unquoted (bindings : List Binding) (unquoted : '\'' ∉ sql) :
    PlacedOutside sql bindings := by
  intro before after text _
  have absent : '\'' ∉ before := fun member => unquoted (text ▸ List.mem_append_left _ member)
  exact (Literal.paired_of_absent absent).quoteState_eq false

theorem substitute_opensComments_spaced :
    PlacedOutside "a - ? -- b".toList [.integer (-1)] ∧
      substitute .escapeQuotes "a - ? -- b".toList [.integer (-1)] = "a - -1 -- b".toList ∧
      ∀ front, OpensBehind "a - -1 -- b".toList front →
        WrittenOpener "a - ? -- b".toList [.integer (-1)] front := by
  have placed : PlacedOutside "a - ? -- b".toList [.integer (-1)] :=
    placedOutside_of_unquoted _ (by decide)
  refine ⟨placed, by decide, (substitute_opensComments placed).written_iff.mpr ?_⟩
  rintro front ⟨before, after, _, text, _⟩
  have joint : ['-', '?'] <:+: "a - ? -- b".toList :=
    ⟨before, after, by rw [text, List.append_assoc]; rfl⟩
  exact absurd ((Text.hasInfix_iff _ _).mpr joint) (by decide)

/-- The sign of a negative number and a minus in front of it open a comment. -/
theorem substitute_joins_minuses :
    ¬ ∀ (sql : List Char) (bindings : List Binding), PlacedOutside sql bindings →
      ∀ front, OpensBehind (substitute .escapeQuotes sql bindings) front →
        WrittenOpener sql bindings front := by
  intro written
  have placed : PlacedOutside "SELECT 5 -?".toList [.integer (-1)] :=
    placedOutside_of_unquoted _ (by decide)
  have joined : JoinedOpener "SELECT 5 -?".toList [.integer (-1)] "SELECT 5 ".toList :=
    ⟨"SELECT 5 ".toList, [], .integer (-1), by decide, rfl, by decide, by decide⟩
  exact (written_of_opens_iff placed).mp (written _ _ placed) _ joined

end Binding

end RemoteQuery
