import Mathlib.Data.List.Infix
import RemoteQuery.Proofs.Literal.Reading
import RemoteQuery.Proofs.Statement.Quotes
import RemoteQuery.Proofs.Text.Search
set_option autoImplicit false

/-! The literals of the text that is sent.  When quotes are escaped, the statement itself
has none, and placeholders stand apart, reading the literals of the sent text gives the
quoted bindings in their order.  They lack their backticks, which the service does not
take anywhere. -/

namespace RemoteQuery

namespace Binding

def nonFiniteName (number : Float) : List Char :=
  if Decimal.isNaN number then "NaN".toList
  else if Decimal.isNegative number then "-inf".toList
  else "inf".toList

/-- The text that is quoted for a binding; nothing for a binding that stands bare. -/
def quotedText? : Binding → Option (List Char)
  | text value => if Literal.isNumeric value.toList then none else some value.toList
  | real number => if Decimal.isFinite number then none else some (nonFiniteName number)
  | integer _ => none
  | flag _ => none

private theorem plain_of_nonFinite {number : Float} (infinite : Decimal.isFinite number = false) :
    (Decimal.plain number).toList = nonFiniteName number := by
  rw [Decimal.plain, nonFiniteName]
  by_cases undefined : Decimal.isNaN number = true
  · rw [if_pos undefined, if_pos undefined]
  · rw [if_neg undefined, if_neg undefined, infinite, if_neg Bool.false_ne_true, Decimal.signed,
      String.toList_ofList]
    rfl

private theorem literal_of_quotedText {binding : Binding} {content : List Char}
    (found : binding.quotedText? = some content) :
    binding.literal .escapeQuotes = Literal.quote (Literal.escape content) := by
  cases binding with
  | integer number => cases found
  | flag value => cases found
  | real number =>
      rw [quotedText?] at found
      cases finite : Decimal.isFinite number with
      | true =>
          rw [finite, if_pos rfl] at found
          cases found
      | false =>
          rw [finite, if_neg Bool.false_ne_true] at found
          cases found
          have unquoted := plain_unquoted number finite
          rw [plain_of_nonFinite finite] at unquoted
          rw [literal, finite, if_neg Bool.false_ne_true, plain_of_nonFinite finite,
            Literal.escape_of_unquoted unquoted]
  | text value =>
      rw [quotedText?] at found
      cases numeric : Literal.isNumeric value.toList with
      | true =>
          rw [numeric, if_pos rfl] at found
          cases found
      | false =>
          rw [numeric, if_neg Bool.false_ne_true] at found
          cases found
          rw [literal, numeric, if_neg Bool.false_ne_true]

theorem literal_unquoted {binding : Binding} (bare : binding.quotedText? = none)
    (policy : LiteralPolicy) : '\'' ∉ binding.literal policy := by
  cases binding with
  | integer number => exact (Literal.isBare_integer number.toInt).unquoted
  | flag value =>
      cases value with
      | true => exact show '\'' ∉ ['1'] by decide
      | false => exact show '\'' ∉ ['0'] by decide
  | real number =>
      rw [quotedText?] at bare
      cases finite : Decimal.isFinite number with
      | true =>
          rw [literal, finite, if_pos rfl]
          exact (Literal.isBare_plain number finite).unquoted
      | false =>
          rw [finite, if_neg Bool.false_ne_true] at bare
          cases bare
  | text value =>
      rw [quotedText?] at bare
      cases numeric : Literal.isNumeric value.toList with
      | true =>
          rw [literal_of_isNumeric numeric]
          exact (Literal.isBare_of_isNumeric numeric).unquoted
      | false =>
          rw [numeric, if_neg Bool.false_ne_true] at bare
          cases bare

/-! ### Placeholders that stand apart -/

/-- Between two placeholders that both have a binding stands more than backticks. -/
def PlaceholdersApart (sql : List Char) (bindings : List Binding) : Prop :=
  ∀ before between after, sql = before ++ placeholder :: (between ++ placeholder :: after) →
    placeholders (before ++ placeholder :: between) < bindings.length →
    ∃ c, c ∈ between ∧ c ≠ '\x60'

theorem PlaceholdersApart.of_other {c : Char} {rest : List Char} {bindings : List Binding}
    (apart : PlaceholdersApart (c :: rest) bindings) (other : c ≠ placeholder) :
    PlaceholdersApart rest bindings := by
  intro before between after split bound
  apply apart (c :: before) between after
  · rw [split, List.cons_append]
  · rw [List.cons_append, placeholders, List.count_cons_of_ne other]
    exact bound

theorem PlaceholdersApart.of_placeholder {rest : List Char} {binding : Binding}
    {others : List Binding}
    (apart : PlaceholdersApart (placeholder :: rest) (binding :: others)) :
    PlaceholdersApart rest others := by
  intro before between after split bound
  apply apart (placeholder :: before) between after
  · rw [split, List.cons_append]
  · rw [List.cons_append, placeholders, List.count_cons_self, List.length_cons]
    exact Nat.succ_lt_succ bound

private theorem apart_of_shown {sql : List Char} (bindings : List Binding)
    (separate : ¬ [placeholder, placeholder] <:+: Statement.shown sql) :
    PlaceholdersApart sql bindings := by
  intro before between after split _
  by_contra alike
  have backticks : Statement.shown between = [] := by
    apply List.filter_eq_nil_iff.mpr
    intro c member stays
    exact alike ⟨c, member, bne_iff_ne.mp stays⟩
  have visible : placeholder ≠ '\x60' := by decide
  apply separate
  refine ⟨Statement.shown before, Statement.shown after, ?_⟩
  rw [split, Statement.shown_append, Statement.shown_cons visible, Statement.shown_append,
    backticks, List.nil_append, Statement.shown_cons visible, List.append_assoc]
  rfl

/-- The next character that is sent does not belong to a literal. -/
def NextWritten (sql : List Char) (bindings : List Binding) : Prop :=
  ∀ between after, sql = between ++ placeholder :: after →
    (∀ c, c ∈ between → c = '\x60') → bindings = []

theorem PlaceholdersApart.nextWritten {rest : List Char} {binding : Binding}
    {others : List Binding}
    (apart : PlaceholdersApart (placeholder :: rest) (binding :: others)) :
    NextWritten rest others := by
  intro between after split backticks
  cases others with
  | nil => rfl
  | cons next others =>
      have none : between.count placeholder = 0 := by
        apply List.count_eq_zero.mpr
        intro member
        exact absurd (backticks placeholder member) (by decide)
      obtain ⟨c, member, different⟩ := apart [] between after (by rw [split]; rfl) (by
        rw [List.nil_append, placeholders, List.count_cons_self, none, List.length_cons,
          List.length_cons]
        omega)
      exact (different (backticks c member)).elim

private theorem startsUnquoted_substitute (policy : LiteralPolicy) {sql : List Char}
    {bindings : List Binding} (unquoted : '\'' ∉ sql) (next : NextWritten sql bindings) :
    Literal.StartsUnquoted (Statement.shown (substitute policy sql bindings)) := by
  induction sql with
  | nil =>
      have nothing : Statement.shown (substitute policy [] bindings) = [] := by
        cases bindings <;> rfl
      rw [nothing]
      exact Literal.startsUnquoted_nil
  | cons c rest inductionHypothesis =>
      have different : c ≠ '\'' := fun same => unquoted (same ▸ List.mem_cons_self)
      have kept : substitute policy (c :: rest) bindings
          = c :: substitute policy rest bindings := by
        cases bindings with
        | nil => cases rest <;> rfl
        | cons binding others =>
            rw [substitute, if_neg]
            intro found
            have none := next [] rest (by rw [found]; rfl) fun _ member =>
              absurd member List.not_mem_nil
            cases none
      rw [kept]
      by_cases backtick : c = '\x60'
      · have dropped : Statement.shown (c :: substitute policy rest bindings)
            = Statement.shown (substitute policy rest bindings) := by
          rw [backtick]
          rfl
        rw [dropped]
        apply inductionHypothesis (fun member => unquoted (List.mem_cons_of_mem c member))
        intro between after split backticks
        apply next (c :: between) after
        · rw [split, List.cons_append]
        · intro other member
          rcases List.mem_cons.mp member with here | behind
          · rw [here]
            exact backtick
          · exact backticks other behind
      · rw [Statement.shown_cons backtick]
        intro first
        exact different (Option.some.inj first)

/-! ### Literals in the place of placeholders -/

/-- The texts that are quoted in a statement, as they are sent. -/
def sentTexts (sql : List Char) (bindings : List Binding) : List (List Char) :=
  ((consumed sql bindings).filterMap quotedText?).map Statement.shown

private theorem shown_quote_escape (content : List Char) :
    Statement.shown (Literal.quote (Literal.escape content))
      = Literal.quote (Literal.escape (Statement.shown content)) := by
  have escaped : Statement.shown (Literal.escape content)
      = Literal.escape (Statement.shown content) := Literal.filter_escape content _ rfl
  have opens : '\'' ≠ '\x60' := by decide
  rw [Literal.quote, Statement.shown_cons opens, Statement.shown_append, escaped]
  rfl

private theorem not_mem_shown {c : Char} {text : List Char} (absent : c ∉ text) :
    c ∉ Statement.shown text :=
  fun member => absent (List.mem_filter.mp member).1

/-- Reading the literals of a statement gives the texts that are quoted in it. -/
theorem readAll_substitute {sql : List Char} {bindings : List Binding} (unquoted : '\'' ∉ sql)
    (apart : PlaceholdersApart sql bindings) :
    Literal.readAll (Statement.shown (substitute .escapeQuotes sql bindings))
      = some (sentTexts sql bindings) := by
  induction sql generalizing bindings with
  | nil =>
      have nothing : Statement.shown (substitute .escapeQuotes [] bindings) = [] := by
        cases bindings <;> rfl
      rw [nothing, Literal.readAll_nil, sentTexts, consumed, placeholders, List.count_nil]
      rfl
  | cons c rest inductionHypothesis =>
      have different : c ≠ '\'' := fun same => unquoted (same ▸ List.mem_cons_self)
      have restUnquoted : '\'' ∉ rest := fun member => unquoted (List.mem_cons_of_mem c member)
      cases bindings with
      | nil =>
          have alone := Literal.readAll_unquoted [] (not_mem_shown unquoted)
          rw [List.append_nil, Literal.readAll_nil] at alone
          rw [substitute, alone, sentTexts, consumed, List.take_nil]
          rfl
      | cons binding others =>
          by_cases found : c = placeholder
          · subst found
            have onward := inductionHypothesis restUnquoted apart.of_placeholder
            have starts := startsUnquoted_substitute .escapeQuotes restUnquoted apart.nextWritten
            rw [substitute, if_pos rfl, Statement.shown_append, sentTexts, consumed_placeholder]
            cases quoted : binding.quotedText? with
            | none =>
                rw [Literal.readAll_unquoted _ (not_mem_shown (literal_unquoted quoted _)),
                  onward, List.filterMap_cons_none quoted]
                rfl
            | some content =>
                rw [literal_of_quotedText quoted, shown_quote_escape,
                  Literal.readAll_quote_escape _ starts, onward,
                  List.filterMap_cons_some quoted, List.map_cons]
                rfl
          · have onward := inductionHypothesis restUnquoted (apart.of_other found)
            rw [substitute, if_neg found, sentTexts, consumed_other rest _ found]
            by_cases backtick : c = '\x60'
            · have dropped (text : List Char) :
                  Statement.shown (c :: text) = Statement.shown text := by
                rw [backtick]
                rfl
              rw [dropped]
              exact onward
            · rw [Statement.shown_cons backtick, Literal.readAll_other _ different]
              exact onward

end Binding

namespace Statement

private theorem limitClause_unquoted (limit : UInt64) :
    '\'' ∉ (s!"LIMIT {limit.toNat}").toList := by
  have digits : '\'' ∉ (toString limit.toNat).toList := by
    rw [show (toString limit.toNat).toList = Decimal.digitsOf limit.toNat from Nat.toList_repr]
    exact Literal.digitsOf_unquoted limit.toNat
  have keyword : '\'' ∉ "LIMIT ".toList := by decide
  have written : (s!"LIMIT {limit.toNat}").toList
      = "LIMIT ".toList ++ (toString limit.toNat).toList :=
    String.toList_append
  rw [written, List.mem_append]
  exact fun member => member.elim keyword digits

theorem compile_unquoted {tablePrefix : String} {request : Request}
    (sqlUnquoted : '\'' ∉ request.sql.toList) (prefixUnquoted : '\'' ∉ tablePrefix.toList) :
    '\'' ∉ (compile tablePrefix request).sql.toList := by
  have expanded : '\'' ∉ expandPrefix tablePrefix.toList request.sql.toList := fun member =>
    (Text.mem_replaceAfter member).elim prefixUnquoted sqlUnquoted
  rw [compile]
  cases request.offset with
  | some offset =>
      simp only [compileLimit, String.toList_ofList]
      exact expanded
  | none =>
      cases request.limit with
      | none =>
          simp only [compileLimit, String.toList_ofList]
          exact expanded
      | some limit =>
          obtain ⟨dropped, whole⟩ :=
            trim_append (expandPrefix tablePrefix.toList request.sql.toList)
          have trimmed : '\'' ∉ trim (expandPrefix tablePrefix.toList request.sql.toList) := by
            intro member
            apply expanded
            rw [← whole]
            exact List.mem_append_left dropped member
          simp only [compileLimit, String.toList_ofList]
          intro member
          rcases List.mem_append.mp member with here | behind
          · exact trimmed here
          · rcases List.mem_cons.mp behind with blank | clause
            · exact absurd blank (by decide)
            · exact limitClause_unquoted limit clause

theorem dropped_unquoted {window : Option Window} {sql dropped : List Char}
    (whole : Window.kept window sql ++ dropped = sql) : '\'' ∉ dropped := by
  intro member
  obtain ⟨before, after, split⟩ := List.append_of_mem member
  have parted : sql = (Window.kept window sql ++ before) ++ '\'' :: after := by
    rw [List.append_assoc, ← split, whole]
  have keeps := @Window.kept_of_visible window '\'' (by decide) (by decide)
    (Window.kept window sql ++ before) after
  rw [← parted] at keeps
  have lengths := congrArg List.length keeps
  simp only [List.length_append, List.length_cons] at lengths
  omega

/-- Clauses around a statement make no difference to its literals, and neither does what
is taken from its end. -/
theorem readAll_enclosed {window : Option Window} {sql sent : List Char}
    (enclosed : Enclosed window sql sent) :
    Literal.readAll sent = Literal.readAll (shown sql) := by
  obtain ⟨closing, closingUnquoted, shape⟩ := enclosed
  obtain ⟨dropped, whole⟩ := Window.kept_append window sql
  have openingUnquoted : '\'' ∉ Window.opening window := by
    rw [Window.opening]
    cases Window.cutsPage window <;> decide
  have sameWhole : shown (Window.kept window sql) ++ shown dropped = shown sql := by
    rw [← shown_append, whole]
  rw [shape, shown_append, shown_append,
    Literal.readAll_unquoted _ (Binding.not_mem_shown openingUnquoted),
    Literal.readAll_append (Binding.not_mem_shown closingUnquoted), ← sameWhole,
    Literal.readAll_append (Binding.not_mem_shown (dropped_unquoted whole))]

end Statement

namespace Connection

/-- Quoted bindings arrive in their order.  They are read back from the statement that is
sent, whatever they hold, but for the backticks, which are taken from all of it. -/
theorem prepare_readAll (connection : Connection) (request : Request) (statement : String)
    (escapes : connection.literalPolicy = .escapeQuotes)
    (sqlUnquoted : '\'' ∉ request.sql.toList)
    (prefixUnquoted : '\'' ∉ connection.tablePrefix.toList)
    (apart : Binding.PlaceholdersApart
      (Statement.compile connection.tablePrefix request).sql.toList request.bindings)
    (prepared : connection.prepare request = .ok statement) :
    Literal.readAll statement.toList
      = some (((Binding.consumed
          (Statement.compile connection.tablePrefix request).sql.toList
          request.bindings).filterMap Binding.quotedText?).map Statement.shown) := by
  have enclosed := Statement.finish_enclosed prepared
  rw [Statement.readAll_enclosed enclosed, String.toList_ofList, escapes,
    Statement.compile_bindings]
  exact Binding.readAll_substitute (Statement.compile_unquoted sqlUnquoted prefixUnquoted) apart

def escapingConnection : Connection :=
  { (default : Connection) with tablePrefix := "t_", literalPolicy := .escapeQuotes }

def awkwardRequest : Request :=
  { sql := "SELECT ?, ?, ? FROM \x7bprefix\x7da"
    bindings := [.text "what's `this`?", .text "12", .text ""]
    limit := some 5, offset := none }

theorem prepare_readAll_awkward :
    escapingConnection.prepare awkwardRequest
        = .ok "SELECT 'what''s this?', 12, '' FROM t_a LIMIT 5" ∧
      Literal.readAll "SELECT 'what''s this?', 12, '' FROM t_a LIMIT 5".toList
        = some ["what's this?".toList, []] :=
  ⟨rfl, prepare_readAll escapingConnection awkwardRequest _ rfl (by decide) (by decide)
    (Binding.apart_of_shown _ (by decide)) rfl⟩

def backtickRequest : Request :=
  { sql := "SELECT ?", bindings := [.text "a\x60b"], limit := none, offset := none }

theorem prepare_loses_backticks :
    ¬ ∀ (connection : Connection) (request : Request) (statement : String),
      connection.literalPolicy = .escapeQuotes →
      '\'' ∉ request.sql.toList →
      '\'' ∉ connection.tablePrefix.toList →
      Binding.PlaceholdersApart
        (Statement.compile connection.tablePrefix request).sql.toList request.bindings →
      connection.prepare request = .ok statement →
      Literal.readAll statement.toList
        = some ((Binding.consumed
            (Statement.compile connection.tablePrefix request).sql.toList
            request.bindings).filterMap Binding.quotedText?) := by
  intro unchanged
  have kept : Literal.readAll "SELECT 'ab'".toList = some ["a\x60b".toList] :=
    unchanged escapingConnection backtickRequest "SELECT 'ab'" rfl (by decide) (by decide)
      (Binding.apart_of_shown _ (by decide)) rfl
  have written : "SELECT 'ab'".toList
      = "SELECT ".toList ++ (Literal.quote (Literal.escape "ab".toList) ++ []) := rfl
  rw [written, Literal.readAll_unquoted _ (by decide),
    Literal.readAll_quote_escape _ Literal.startsUnquoted_nil, Literal.readAll_nil] at kept
  exact absurd (Option.some.inj kept) (by decide)

end Connection

end RemoteQuery
