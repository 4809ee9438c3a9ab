import Mathlib.Data.List.Infix
import RemoteQuery.Proofs.Literal.Segments
import RemoteQuery.Proofs.Literal.Typed
import RemoteQuery.Proofs.Text.Search
set_option autoImplicit false

/-! Prefixes and bindings.  The table prefix may be expanded before literals are put for
placeholders or afterwards, as long as the prefix has no placeholder and no literal has the
token of the prefix.  A literal begins and ends with characters that the token does not
have, so that no token reaches from the statement into a literal.  A token that stands in a
literal is sent as it is. -/

namespace RemoteQuery

namespace Literal

/-- What a number may begin and end with. -/
def isEdgeChar (c : Char) : Bool :=
  Text.isBlank c || isDecimalChar c || c == '+' || c == '-'

private theorem isEdgeChar_of_blank {c : Char} (blank : Text.isBlank c = true) :
    isEdgeChar c = true := by
  simp [isEdgeChar, blank]

private theorem isEdgeChar_of_decimal {c : Char} (decimal : isDecimalChar c = true) :
    isEdgeChar c = true := by
  simp [isEdgeChar, decimal]

theorem IsNumeral.opening {text : List Char} (numeral : IsNumeral text) :
    ∃ opening behind, text = opening ++ behind ∧ opening ≠ [] ∧
      ∀ c, c ∈ opening → isEdgeChar c = true := by
  obtain ⟨front, sign, size, exponent, back, rfl, blank, decimal, _, _⟩ := numeral
  obtain ⟨digit, member, _⟩ := decimal.digit
  refine ⟨front ++ (sign ++ size), exponent ++ back, by simp only [List.append_assoc],
    List.ne_nil_of_mem (List.mem_append_right front (List.mem_append_right sign member)), ?_⟩
  intro c found
  rcases List.mem_append.mp found with early | found
  · exact isEdgeChar_of_blank (blank c early)
  · rcases List.mem_append.mp found with signs | inside
    · exact decimal.sign.eq_of_mem signs (by decide) (by decide)
    · exact isEdgeChar_of_decimal (decimal.chars c inside)

theorem IsNumeral.closing {text : List Char} (numeral : IsNumeral text) :
    ∃ before closing, text = before ++ closing ∧ closing ≠ [] ∧
      ∀ c, c ∈ closing → isEdgeChar c = true := by
  obtain ⟨front, sign, size, exponent, back, rfl, _, decimal, form, blank⟩ := numeral
  obtain ⟨digit, member, _⟩ := decimal.digit
  rcases form with rfl | ⟨mark, markSign, digits, rfl, _, _, filled, isDigits⟩
  · refine ⟨front ++ sign, size ++ back, by simp, List.ne_nil_of_mem
      (List.mem_append_left back member), ?_⟩
    intro c found
    rcases List.mem_append.mp found with inside | late
    · exact isEdgeChar_of_decimal (decimal.chars c inside)
    · exact isEdgeChar_of_blank (blank c late)
  · refine ⟨front ++ (sign ++ size ++ mark :: markSign), digits ++ back, by simp,
      List.append_ne_nil_of_left_ne_nil filled back, ?_⟩
    intro c found
    rcases List.mem_append.mp found with inside | late
    · exact isEdgeChar_of_decimal (isDecimalChar_of_digit (isDigits c inside))
    · exact isEdgeChar_of_blank (blank c late)

end Literal

namespace Binding

/-- The token of the prefix has no character that a literal begins or ends with. -/
theorem literal_guarded (policy : LiteralPolicy) (binding : Binding) :
    Text.Guarded Statement.prefixToken.toList (binding.literal policy) := by
  have noEdges : Statement.prefixToken.toList.all (fun c => !Literal.isEdgeChar c) = true := rfl
  have outside {part : List Char} (allEdges : ∀ c, c ∈ part → Literal.isEdgeChar c = true) :
      ∀ c, c ∈ part → c ∉ Statement.prefixToken.toList := by
    intro c inside member
    have noEdge := List.all_eq_true.mp noEdges c member
    rw [allEdges c inside] at noEdge
    cases noEdge
  rcases literal_numeral_or_quoted policy binding with numeral | ⟨content, same⟩
  · obtain ⟨opening, behind, starts, opens, openingEdges⟩ := numeral.opening
    obtain ⟨before, closing, ends, closes, closingEdges⟩ := numeral.closing
    exact .of_parts starts ends opens closes (outside openingEdges) (outside closingEdges)
  · rw [same]
    exact ⟨⟨'\'', _, rfl, by decide⟩, ⟨'\'' :: content, '\'', rfl, by decide⟩⟩

end Binding

namespace Statement

theorem prefixToken_filled : prefixToken.toList ≠ [] := by decide

theorem placeholder_outside : Binding.placeholder ∉ prefixToken.toList := by decide

variable {tablePrefix : List Char}

/-- The segments of a statement are expanded one by one, whatever is put between them. -/
theorem interleaved_expand (policy : LiteralPolicy) (segments : List (List Char))
    {bindings : List Binding}
    (absent : ∀ binding, binding ∈ bindings → ¬ prefixToken.toList <:+: binding.literal policy) :
    Binding.interleaved policy (segments.map (expandPrefix tablePrefix)) bindings
      = expandPrefix tablePrefix (Binding.interleaved policy segments bindings) := by
  fun_induction Binding.interleaved policy segments bindings with
  | case1 bindings => rfl
  | case2 segment => rfl
  | case3 segment next others inductionHypothesis =>
      rw [expandPrefix, Text.replace_around prefixToken_filled placeholder_outside,
        ← expandPrefix, ← expandPrefix, ← inductionHypothesis absent]
      rfl
  | case4 segment next others binding bindings inductionHypothesis =>
      have first := absent binding List.mem_cons_self
      have further := inductionHypothesis fun other member =>
        absent other (List.mem_cons_of_mem binding member)
      rw [expandPrefix, Text.replace_guarded (Binding.literal_guarded policy binding) first,
        ← expandPrefix, ← expandPrefix, ← further]
      rfl

private theorem count_expandPrefix (unplaced : Binding.placeholder ∉ tablePrefix)
    (sql : List Char) :
    (expandPrefix tablePrefix sql).count Binding.placeholder
      = sql.count Binding.placeholder := by
  have sameSegments := congrArg List.length
    (Text.splitAt_replace prefixToken_filled placeholder_outside unplaced sql)
  rw [List.length_map, Text.length_splitAt, Text.length_splitAt] at sameSegments
  exact Nat.succ.inj sameSegments

private theorem substitute_expandPrefix (unplaced : Binding.placeholder ∉ tablePrefix)
    (policy : LiteralPolicy) (sql : List Char) {bindings : List Binding}
    (absent : ∀ binding, binding ∈ bindings → ¬ prefixToken.toList <:+: binding.literal policy) :
    Binding.substitute policy (expandPrefix tablePrefix sql) bindings
      = expandPrefix tablePrefix (Binding.substitute policy sql bindings) := by
  calc Binding.substitute policy (expandPrefix tablePrefix sql) bindings
      = Binding.interleaved policy
          ((Text.splitAt Binding.placeholder sql).map (expandPrefix tablePrefix)) bindings := by
        rw [Binding.substitute_eq_interleaved, expandPrefix,
          Text.splitAt_replace prefixToken_filled placeholder_outside unplaced]
        rfl
    _ = expandPrefix tablePrefix (Binding.interleaved policy
          (Text.splitAt Binding.placeholder sql) bindings) :=
        interleaved_expand policy _ absent
    _ = expandPrefix tablePrefix (Binding.substitute policy sql bindings) := by
        rw [Binding.substitute_eq_interleaved]

/-! ### Literals with the token -/

private theorem quoted_of_token {policy : LiteralPolicy} {binding : Binding}
    (occurs : prefixToken.toList <:+: binding.literal policy) :
    ∃ content, binding.literal policy = Literal.quote content := by
  rcases Binding.literal_numeral_or_quoted policy binding with numeral | quoted
  · have bare := Literal.isBare_of_isNumeric (Literal.isNumeric_of_isNumeral numeral)
    have opens : '\x7b' ∈ prefixToken.toList := by decide
    exact absurd (bare.chars _ (occurs.subset opens)) (by decide)
  · exact quoted

private theorem shown_of_token {text : List Char} (occurs : prefixToken.toList <:+: text) :
    prefixToken.toList <:+: shown text := by
  obtain ⟨before, after, rfl⟩ := occurs
  have whole : shown prefixToken.toList = prefixToken.toList := by decide
  rw [shown_append, shown_append, whole]
  exact ⟨shown before, shown after, rfl⟩

/-- A quoted literal is sent up to its last quote, which nothing at the end is taken from. -/
theorem sent_quoted {policy : LiteralPolicy} {compiled : CompiledRequest} {binding : Binding}
    {before after content sent closing : List Char}
    (same : sent = shown (Window.opening compiled.window
      ++ (keptText policy compiled ++ closing)))
    (split : compiled.sql.toList = before ++ Binding.placeholder :: after)
    (found : compiled.bindings[Binding.placeholders before]? = some binding)
    (quoted : binding.literal policy = Literal.quote content) :
    ∃ rest, sent = sentBefore policy compiled before
      ++ (shown (binding.literal policy) ++ rest) := by
  let later := Binding.substitute policy after
    (compiled.bindings.drop (Binding.placeholders before + 1))
  have kept : keptText policy compiled = Binding.substitute policy before compiled.bindings
      ++ (binding.literal policy ++ Window.kept compiled.window later) := by
    have closes : binding.literal policy = ('\'' :: content) ++ ['\''] := quoted
    rw [keptText, split, Binding.substitute_consumed policy after found, closes,
      List.append_assoc, ← List.append_assoc, List.singleton_append,
      Window.kept_of_visible _ (by decide) (by decide)]
    simp only [List.append_assoc, List.cons_append, List.nil_append, later]
  rw [sent_append same kept, List.append_assoc, shown_append]
  exact ⟨_, rfl⟩

/-- What a table prefix does to statements and to their bindings. -/
structure ExpandsApart (tablePrefix : String) : Prop where
  /-- The token of the prefix cuts a statement in one way only. -/
  cut : ∀ sql, ∃! pieces, Text.Pieces prefixToken.toList sql pieces
  joined : ∀ sql pieces, Text.Pieces prefixToken.toList sql pieces →
    expandPrefix tablePrefix.toList sql = tablePrefix.toList.intercalate pieces
  counted : Binding.placeholder ∉ tablePrefix.toList → ∀ sql,
    (expandPrefix tablePrefix.toList sql).count Binding.placeholder
      = sql.count Binding.placeholder
  /-- Each placeholder stays between the same two segments. -/
  ordered : Binding.placeholder ∉ tablePrefix.toList → ∀ sql,
    Text.splitAt Binding.placeholder (expandPrefix tablePrefix.toList sql)
      = (Text.splitAt Binding.placeholder sql).map (expandPrefix tablePrefix.toList)
  commutes : Binding.placeholder ∉ tablePrefix.toList → ∀ policy sql bindings,
    (∀ binding, binding ∈ bindings → ¬ prefixToken.toList <:+: binding.literal policy) →
    Binding.substitute policy (expandPrefix tablePrefix.toList sql) bindings
      = expandPrefix tablePrefix.toList (Binding.substitute policy sql bindings)
  /-- A literal with the token is sent with it; it lacks its backticks only. -/
  unexpanded : ∀ policy request statement before after binding,
    prepare tablePrefix policy request = .ok statement →
    (compile tablePrefix request).sql.toList = before ++ Binding.placeholder :: after →
    request.bindings[Binding.placeholders before]? = some binding →
    prefixToken.toList <:+: binding.literal policy →
    prefixToken.toList <:+: shown (binding.literal policy) ∧
    ∃ rest, statement.toList
      = sentBefore policy (compile tablePrefix request) before
        ++ (shown (binding.literal policy) ++ rest)

/-- Expanding a prefix keeps away from bindings, and bindings from the prefix. -/
theorem expandsApart (tablePrefix : String) : ExpandsApart tablePrefix where
  cut := by
    intro sql
    obtain ⟨pieces, cut⟩ := Text.exists_pieces prefixToken_filled sql
    exact ⟨pieces, cut, fun others again => cut.unique again⟩
  joined := fun _ _ cut => cut.replace_eq prefixToken_filled
  counted := count_expandPrefix
  ordered := Text.splitAt_replace prefixToken_filled placeholder_outside
  commutes := fun unplaced policy sql _ absent =>
    substitute_expandPrefix unplaced policy sql absent
  unexpanded := by
    intro policy request statement before after binding prepared split found occurs
    obtain ⟨closing, shape⟩ := finish_shape prepared
    rw [String.toList_ofList] at shape
    rw [← compile_bindings tablePrefix request] at found
    obtain ⟨content, quoted⟩ := quoted_of_token occurs
    exact ⟨shown_of_token occurs, sent_quoted shape split found quoted⟩

def markedRequest : Request :=
  { sql := "SELECT ? FROM \x7bprefix\x7da", bindings := [.text "\x7bprefix\x7d"]
    limit := none, offset := none }

/-- A token that a literal breaks is none, and a token in a literal stays. -/
theorem expandsApart_marked :
    Binding.substitute .verbatim (expandPrefix "t_".toList "\x7bpre?fix\x7d".toList) [.integer 1]
        = expandPrefix "t_".toList "\x7bpre1fix\x7d".toList ∧
      prepare "t_" .verbatim markedRequest = .ok "SELECT '\x7bprefix\x7d' FROM t_a" ∧
      ∃ rest, "SELECT '\x7bprefix\x7d' FROM t_a".toList
        = sentBefore .verbatim (compile "t_" markedRequest) "SELECT ".toList
          ++ (shown "'\x7bprefix\x7d'".toList ++ rest) :=
  ⟨(expandsApart "t_").commutes (by decide) _ _ _ (by decide), rfl,
    ((expandsApart "t_").unexpanded .verbatim markedRequest _ "SELECT ".toList
      " FROM t_a".toList (.text "\x7bprefix\x7d") rfl rfl rfl (by decide)).2⟩

/-- Expanding afterwards would reach into that literal. -/
example : expandPrefix "t_".toList (Binding.substitute .verbatim markedRequest.sql.toList
    markedRequest.bindings) = "SELECT 't_' FROM t_a".toList := by decide

end Statement

end RemoteQuery
