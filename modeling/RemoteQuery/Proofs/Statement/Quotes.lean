import RemoteQuery.Connection
import RemoteQuery.Proofs.Quotes
import RemoteQuery.Proofs.Statement.Shape
set_option autoImplicit false

/-! Quotes in the text that is sent.  Whatever is bound, what a caller has written stays
inside or outside of quotes as it was written, and a literal that is put outside of
quotes is a number or closes every quote that it opens. -/

namespace RemoteQuery

namespace Statement

/-- The text that is sent for what stands in front of a place in a statement. -/
def sentBefore (policy : LiteralPolicy) (compiled : CompiledRequest) (before : List Char) :
    List Char :=
  shown (Window.opening compiled.window ++ Binding.substitute policy before compiled.bindings)

/-- What is left of a statement with its literals. -/
def keptText (policy : LiteralPolicy) (compiled : CompiledRequest) : List Char :=
  Window.kept compiled.window
    (Binding.substitute policy compiled.sql.toList compiled.bindings)

/-- Quotes are safe in a text that is sent for a statement. -/
structure QuoteSafe (policy : LiteralPolicy) (compiled : CompiledRequest) (sent : List Char) :
    Prop where
  /-- A character that is no placeholder with a binding, no backtick, and not taken from
  the end is sent with the state that it had. -/
  written : ∀ before c after, compiled.sql.toList = before ++ c :: after →
    (c = Binding.placeholder →
      compiled.bindings.length ≤ Binding.placeholders before) →
    c ≠ '\x60' →
    (Binding.substitute policy before compiled.bindings).length
      < (keptText policy compiled).length →
    ∃ rest, sent = sentBefore policy compiled before ++ c :: rest ∧
      isInside (sentBefore policy compiled before) = isInside before
  /-- Outside of quotes a literal is bare, or it stands in quotes with all else inside.  It
  is sent but for backticks and for blanks at the end of a statement. -/
  bound : ∀ before after binding,
    compiled.sql.toList = before ++ Binding.placeholder :: after →
    compiled.bindings[Binding.placeholders before]? = some binding →
    isInside before = false →
    ∃ literal hidden rest,
      sent = sentBefore policy compiled before ++ (literal ++ rest) ∧
      shown (binding.literal policy) = literal ++ hidden ∧
      (∀ c, c ∈ hidden → Text.isBlank c = true) ∧
      (Literal.IsBare (binding.literal policy) ∨
        ∃ content, binding.literal policy = Literal.quote content ∧ hidden = [] ∧
          ∀ first c second, content = first ++ c :: second → c ≠ '\'' →
            isInside (sentBefore policy compiled before ++ '\'' :: shown first) = true)

/-! ### Characters of the statement -/

variable {policy : LiteralPolicy} {compiled : CompiledRequest} {before after : List Char}

theorem compile_bindings (tablePrefix : String) (request : Request) :
    (compile tablePrefix request).bindings = request.bindings := by
  rw [compile]
  cases compileLimit request.limit request.offset <;> rfl

private theorem opening_quoteState (window : Option Window) :
    quoteState false (Window.opening window) = false := by
  rw [Window.opening]
  cases Window.cutsPage window <;> rfl

/-- Literals and clauses in front of a place make no difference to its state. -/
theorem sentBefore_quoteState
    (safe : ∀ binding, binding ∈ Binding.consumed before compiled.bindings →
      binding.IsSafe policy) :
    isInside (sentBefore policy compiled before) = isInside before := by
  rw [sentBefore, shown, isInside, quoteState_filter false _ _ rfl, quoteState_append,
    opening_quoteState, Binding.substitute_quoteState safe]
  rfl

theorem sent_append {sent closing rest : List Char}
    (same : sent = shown (Window.opening compiled.window
      ++ (keptText policy compiled ++ closing)))
    (split : keptText policy compiled
      = Binding.substitute policy before compiled.bindings ++ rest) :
    sent = sentBefore policy compiled before ++ shown (rest ++ closing) := by
  rw [same, split, sentBefore, ← shown_append]
  simp only [List.append_assoc]

private theorem exists_kept {text dropped first second : List Char} {c : Char}
    (same : text ++ dropped = first ++ c :: second) (longer : first.length < text.length) :
    ∃ rest, text = first ++ c :: rest := by
  rcases List.append_eq_append_iff.mp same with
      ⟨part, splitFirst, _⟩ | ⟨part, splitText, splitRest⟩
  · rw [splitFirst, List.length_append] at longer
    omega
  · cases part with
    | nil =>
        rw [splitText, List.append_nil] at longer
        omega
    | cons head part =>
        rw [List.cons_append] at splitRest
        rw [splitText, (List.cons.inj splitRest).1]
        exact ⟨part, rfl⟩

private theorem sent_written {sent closing : List Char} {c : Char}
    (same : sent = shown (Window.opening compiled.window
      ++ (keptText policy compiled ++ closing)))
    (split : compiled.sql.toList = before ++ c :: after)
    (kept : c = Binding.placeholder →
      compiled.bindings.length ≤ Binding.placeholders before)
    (noBacktick : c ≠ '\x60')
    (stays : (Binding.substitute policy before compiled.bindings).length
      < (keptText policy compiled).length) :
    ∃ rest, sent = sentBefore policy compiled before ++ c :: rest := by
  obtain ⟨dropped, whole⟩ := Window.kept_append compiled.window
    (Binding.substitute policy compiled.sql.toList compiled.bindings)
  have bound := Binding.substitute_kept policy after kept
  rw [← split] at bound
  obtain ⟨rest, keptSplit⟩ := exists_kept (whole.trans bound) stays
  refine ⟨shown (rest ++ closing), ?_⟩
  rw [sent_append same keptSplit, List.cons_append, shown_cons noBacktick]

/-! ### Literals -/

theorem literal_last {binding : Binding} (safe : binding.IsSafe policy) :
    ∃ front last back, binding.literal policy = front ++ last :: back ∧
      Text.isBlank last = false ∧ last ≠ ';' ∧ (∀ c, c ∈ back → Text.isBlank c = true) ∧
      (Literal.IsBare (binding.literal policy) ∨
        ∃ content, Literal.Paired content ∧ front = '\'' :: content ∧ last = '\'' ∧
          back = []) := by
  rcases Binding.literal_form safe with bare | ⟨content, paired, same⟩
  · obtain ⟨front, last, back, split, visible, blank⟩ := Text.exists_last_visible bare.visible
    refine ⟨front, last, back, split, visible, ?_, blank, Or.inl bare⟩
    intro semicolon
    have isBare := bare.chars last (by
      rw [split]
      exact List.mem_append_right front List.mem_cons_self)
    rw [semicolon] at isBare
    revert isBare
    decide
  · refine ⟨'\'' :: content, '\'', [], same, rfl, by decide, ?_,
      Or.inr ⟨content, paired, rfl, rfl, rfl⟩⟩
    intro c none
    cases none

private theorem exists_seen {text dropped first second : List Char}
    (same : text ++ dropped = first ++ second) :
    ∃ seen hidden rest, text = seen ++ rest ∧ first = seen ++ hidden ∧
      (hidden = [] ∨ rest = []) := by
  rcases List.append_eq_append_iff.mp same with ⟨part, splitFirst, _⟩ | ⟨part, splitText, _⟩
  · exact ⟨text, part, [], (List.append_nil text).symm, splitFirst, Or.inr rfl⟩
  · exact ⟨first, [], part, splitText, (List.append_nil first).symm, Or.inl rfl⟩

/-- In quotes that a literal opens everything but the pairs of quotes is inside. -/
theorem isInside_content {front content : List Char} (outside : isInside front = false)
    (paired : Literal.Paired content) {first second : List Char} {c : Char}
    (split : content = first ++ c :: second) (different : c ≠ '\'') :
    isInside (front ++ '\'' :: shown first) = true := by
  rw [isInside, quoteState_append, quoteState_quote, shown, quoteState_filter _ _ _ rfl]
  rw [isInside] at outside
  rw [outside]
  exact paired.quoteState_before true split different

private theorem sent_bound {sent closing : List Char} {binding : Binding}
    (same : sent = shown (Window.opening compiled.window
      ++ (keptText policy compiled ++ closing)))
    (split : compiled.sql.toList = before ++ Binding.placeholder :: after)
    (found : compiled.bindings[Binding.placeholders before]? = some binding)
    (safe : binding.IsSafe policy)
    (outside : isInside (sentBefore policy compiled before) = false) :
    ∃ literal hidden rest,
      sent = sentBefore policy compiled before ++ (literal ++ rest) ∧
      shown (binding.literal policy) = literal ++ hidden ∧
      (∀ c, c ∈ hidden → Text.isBlank c = true) ∧
      (Literal.IsBare (binding.literal policy) ∨
        ∃ content, binding.literal policy = Literal.quote content ∧ hidden = [] ∧
          ∀ first c second, content = first ++ c :: second → c ≠ '\'' →
            isInside (sentBefore policy compiled before ++ '\'' :: shown first) = true) := by
  obtain ⟨front, last, back, literalSplit, visible, solid, blank, form⟩ := literal_last safe
  have bound := Binding.substitute_consumed policy after found
  rw [← split, literalSplit, List.append_assoc, List.cons_append, ← List.append_assoc] at bound
  obtain ⟨dropped, whole⟩ := Window.kept_append compiled.window
    (back ++ Binding.substitute policy after
      (compiled.bindings.drop (Binding.placeholders before + 1)))
  obtain ⟨seen, hidden, rest, keptSplit, backSplit, _⟩ := exists_seen whole
  have kept : keptText policy compiled
      = Binding.substitute policy before compiled.bindings ++ (front ++ last :: seen ++ rest) := by
    rw [keptText, bound, Window.kept_of_visible _ visible solid, keptSplit]
    simp only [List.append_assoc, List.cons_append]
  refine ⟨shown (front ++ last :: seen), shown hidden, shown (rest ++ closing), ?_, ?_, ?_, ?_⟩
  · rw [sent_append same kept, List.append_assoc, shown_append]
  · rw [literalSplit, backSplit, ← shown_append, List.append_assoc, List.cons_append]
  · intro c member
    apply blank c
    rw [backSplit]
    exact List.mem_append_right seen (List.mem_filter.mp member).1
  · rcases form with bare | ⟨content, paired, opens, closes, nothing⟩
    · exact Or.inl bare
    · right
      rw [nothing] at backSplit
      obtain ⟨_, noneHidden⟩ := List.append_eq_nil_iff.mp backSplit.symm
      refine ⟨content, ?_, ?_, ?_⟩
      · rw [literalSplit, opens, closes, nothing, List.cons_append, Literal.quote]
      · rw [noneHidden]
        rfl
      · intro first c second contentSplit different
        exact isInside_content outside paired contentSplit different

end Statement

namespace Connection

/-- Whatever is bound, quotes are safe in what a connection sends, as long as it escapes
them or no text that is quoted has one. -/
theorem prepare_quoteSafe (connection : Connection) (request : Request) (statement : String)
    (prepared : connection.prepare request = .ok statement)
    (trusted : connection.literalPolicy = .escapeQuotes ∨
      ∀ value, Binding.text value ∈
          Binding.consumed (Statement.compile connection.tablePrefix request).sql.toList
            request.bindings →
        Literal.isNumeric value.toList = false → '\'' ∉ value.toList) :
    Statement.QuoteSafe connection.literalPolicy
      (Statement.compile connection.tablePrefix request) statement.toList := by
  let compiled := Statement.compile connection.tablePrefix request
  obtain ⟨closing, shape⟩ := Statement.finish_shape prepared
  rw [String.toList_ofList] at shape
  have safe : ∀ binding, binding ∈ Binding.consumed compiled.sql.toList compiled.bindings →
      binding.IsSafe connection.literalPolicy := by
    intro binding member
    rw [Statement.compile_bindings] at member
    cases binding with
    | integer number => trivial
    | real number => trivial
    | flag value => trivial
    | text value =>
        rcases trusted with escapes | unquoted
        · exact Or.inl escapes
        · cases numeric : Literal.isNumeric value.toList with
          | true => exact Or.inr (Or.inl numeric)
          | false => exact Or.inr (Or.inr (unquoted value member numeric))
  have sameState {before rest : List Char} (split : compiled.sql.toList = before ++ rest) :
      isInside (Statement.sentBefore connection.literalPolicy compiled before)
        = isInside before := by
    apply Statement.sentBefore_quoteState
    intro binding member
    apply safe
    rw [split]
    exact Binding.consumed_append before rest _ binding member
  constructor
  · intro before c after split kept noBacktick stays
    obtain ⟨rest, sent⟩ := Statement.sent_written shape split kept noBacktick stays
    exact ⟨rest, sent, sameState split⟩
  · intro before after binding split found outside
    have consumed : binding ∈ Binding.consumed compiled.sql.toList compiled.bindings := by
      rw [split]
      exact Binding.mem_consumed after found
    exact Statement.sent_bound shape split found (safe binding consumed)
      ((sameState split).trans outside)

def quotedConnection : Connection :=
  { (default : Connection) with tablePrefix := "t_", literalPolicy := .escapeQuotes }

def quotedRequest : Request :=
  { sql := "SELECT ? FROM \x7bprefix\x7da WHERE b = 'c'", bindings := [.text "d'e"]
    limit := some 5, offset := none }

theorem prepare_quoteSafe_escaped :
    quotedConnection.prepare quotedRequest
        = .ok "SELECT 'd''e' FROM t_a WHERE b = 'c' LIMIT 5" ∧
      Statement.QuoteSafe quotedConnection.literalPolicy
        (Statement.compile quotedConnection.tablePrefix quotedRequest)
        "SELECT 'd''e' FROM t_a WHERE b = 'c' LIMIT 5".toList :=
  ⟨rfl, prepare_quoteSafe quotedConnection quotedRequest _ rfl (Or.inl rfl)⟩

end Connection

end RemoteQuery
