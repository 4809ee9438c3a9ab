import RemoteQuery.Connection
import RemoteQuery.Proofs.Literal.Segments
import RemoteQuery.Proofs.Quotes
import RemoteQuery.Proofs.Statement.Shape
set_option autoImplicit false

/-! What a request is prepared to.  Its limit and its offset decide what stands around the
statement with its literals: nothing, a limit behind it, or the window of a page.  Only a
request with both can fail, for want of a ranking column or by an overflow. -/

namespace RemoteQuery

namespace Connection

def expanded (connection : Connection) (request : Request) : List Char :=
  Statement.expandPrefix connection.tablePrefix.toList request.sql.toList

/-- A text with the bindings of a request between its segments. -/
def bound (connection : Connection) (request : Request) (sql : List Char) : List Char :=
  Binding.interleaved connection.literalPolicy (Text.splitAt Binding.placeholder sql)
    request.bindings

def limitClause (limit : UInt64) : List Char := (" LIMIT " ++ toString limit.toNat).toList

def pageOf (sql : List Char) (first last : UInt64) : List Char :=
  ("SELECT * FROM (" ++ String.ofList (Statement.trim sql) ++ ") WHERE rn BETWEEN "
    ++ toString first.toNat ++ " AND " ++ toString last.toNat).toList

/-- A text is sent without its backticks, and is otherwise as it is. -/
def Sends (connection : Connection) (request : Request) (text : List Char) : Prop :=
  connection.prepare request = .ok (String.ofList (text.filter fun c => c != '\x60'))

/-- What a connection prepares for a request. -/
structure Prepares (connection : Connection) (request : Request) : Prop where
  unlimited : request.limit = none →
    connection.Sends request (connection.bound request (connection.expanded request))
  /-- The limit comes behind the literals, so that none of them can get into it. -/
  limited : ∀ limit, request.limit = some limit → request.offset = none →
    connection.Sends request
      (connection.bound request (Statement.trim (connection.expanded request))
        ++ limitClause limit)
  unranked : ∀ limit offset, request.limit = some limit → request.offset = some offset →
    ((∃ text, connection.prepare request = .error (.refused (.paginationSyntax text))) ↔
      Sql.hasRankingColumn
        (String.ofList (connection.bound request (connection.expanded request))) = false)
  /-- The limit zero asks for no page. -/
  whole : ∀ offset, request.limit = some 0 → request.offset = some offset →
    Sql.hasRankingColumn
      (String.ofList (connection.bound request (connection.expanded request))) = true →
    connection.Sends request (connection.bound request (connection.expanded request))
  paged : ∀ limit offset, request.limit = some limit → request.offset = some offset →
    limit ≠ 0 →
    Sql.hasRankingColumn
      (String.ofList (connection.bound request (connection.expanded request))) = true →
    (∃ overflow, Window.rowRange { limit := some limit, offset := offset } = .error overflow ∧
      connection.prepare request = .error (.overflow overflow)) ∨
    ∃ first last,
      Window.rowRange { limit := some limit, offset := offset } = .ok (some (first, last)) ∧
      connection.Sends request
        (pageOf (connection.bound request (connection.expanded request)) first last)
  clean : ∀ statement, connection.prepare request = .ok statement → '\x60' ∉ statement.toList
  succeeds : request.limit = none ∨ request.offset = none →
    ∃ statement, connection.prepare request = .ok statement

variable {connection : Connection} {request : Request}

private theorem stripBackticks_ofList (text : List Char) :
    Statement.stripBackticks (String.ofList text)
      = String.ofList (text.filter fun c => c != '\x60') := by
  rw [Statement.stripBackticks, String.toList_ofList]

private theorem substitute_eq_bound (sql : List Char) :
    Binding.substitute connection.literalPolicy sql request.bindings
      = connection.bound request sql :=
  Binding.substitute_eq_interleaved _ _ _

/-! ### Without a page -/

theorem sends_unlimited (unlimited : request.limit = none) :
    connection.Sends request (connection.bound request (connection.expanded request)) := by
  rw [Sends, prepare, Statement.prepare, Statement.compile, unlimited]
  cases request.offset with
  | none =>
      simp only [Statement.compileLimit, Statement.finish, String.toList_ofList,
        stripBackticks_ofList, substitute_eq_bound]
      rfl
  | some offset =>
      simp only [Statement.compileLimit, Statement.finish, String.toList_ofList,
        stripBackticks_ofList, substitute_eq_bound]
      rfl

private theorem limitClause_unplaced (limit : UInt64) :
    Binding.placeholder ∉ limitClause limit := by
  have clause : Binding.placeholder ∉ " LIMIT ".toList := by decide
  rw [limitClause, String.toList_append, List.mem_append]
  rintro (member | member)
  · exact clause member
  · rw [show (toString limit.toNat).toList = Decimal.digitsOf limit.toNat from Nat.toList_repr]
      at member
    exact absurd (Literal.digitsOf_digits _ _ member) (by decide)

theorem sends_limited {limit : UInt64} (limited : request.limit = some limit)
    (first : request.offset = none) :
    connection.Sends request
      (connection.bound request (Statement.trim (connection.expanded request))
        ++ limitClause limit) := by
  have clause : ' ' :: (s!"LIMIT {limit.toNat}").toList = limitClause limit := by
    rw [limitClause, String.toList_append, String.toList_append]
    rfl
  have apart : Binding.substitute connection.literalPolicy
      (Statement.trim (connection.expanded request) ++ limitClause limit) request.bindings
      = connection.bound request (Statement.trim (connection.expanded request))
        ++ limitClause limit := by
    rw [Binding.substitute_append, substitute_eq_bound,
      Binding.substitute_of_absent _ (limitClause_unplaced limit)]
  rw [Sends, prepare, Statement.prepare, Statement.compile, limited, first]
  simp only [Statement.compileLimit, Statement.finish, String.toList_ofList, clause,
    stripBackticks_ofList]
  rw [show Statement.expandPrefix connection.tablePrefix.toList request.sql.toList
    = connection.expanded request from rfl, apart]

/-! ### With a page -/

theorem prepare_of_window {limit offset : UInt64} (limited : request.limit = some limit)
    (shifted : request.offset = some offset) :
    connection.prepare request
      = (Statement.cutPage
          (String.ofList (connection.bound request (connection.expanded request)))
          limit offset).map Statement.stripBackticks := by
  rw [prepare, Statement.prepare, Statement.compile, limited, shifted]
  simp only [Statement.compileLimit, Statement.finish, String.toList_ofList,
    substitute_eq_bound]
  rfl

section Page

variable {limit offset : UInt64} {sql : List Char}

theorem cutPage_unranked (unranked : Sql.hasRankingColumn (String.ofList sql) = false) :
    Statement.cutPage (String.ofList sql) limit offset
      = .error (.refused Statement.missingRanking) := by
  rw [Statement.cutPage, unranked]
  rfl

theorem cutPage_zero (ranked : Sql.hasRankingColumn (String.ofList sql) = true) :
    Statement.cutPage (String.ofList sql) 0 offset = .ok (String.ofList sql) := by
  rw [Statement.cutPage, ranked]
  rfl

theorem cutPage_overflow {overflow : Overflow}
    (ranked : Sql.hasRankingColumn (String.ofList sql) = true)
    (range : Window.rowRange { limit := some limit, offset := offset } = .error overflow) :
    Statement.cutPage (String.ofList sql) limit offset = .error (.overflow overflow) := by
  rw [Statement.cutPage, ranked, range]
  rfl

theorem cutPage_page {first last : UInt64}
    (ranked : Sql.hasRankingColumn (String.ofList sql) = true)
    (range : Window.rowRange { limit := some limit, offset := offset }
      = .ok (some (first, last))) :
    Statement.cutPage (String.ofList sql) limit offset
      = .ok (String.ofList (pageOf sql first last)) := by
  have filtered : ") WHERE rn BETWEEN " = ") WHERE " ++ Sql.rankingName ++ " BETWEEN " := by
    decide
  rw [Statement.cutPage, ranked, range, pageOf, String.ofList_toList, filtered]
  simp only [Bool.not_true, Bool.false_eq_true, if_false, String.toList_ofList,
    String.append_assoc]
  rfl

theorem rowRange_of_positive (offset : UInt64) (positive : limit ≠ 0) :
    (∃ overflow, Window.rowRange { limit := some limit, offset := offset } = .error overflow) ∨
    ∃ first last,
      Window.rowRange { limit := some limit, offset := offset } = .ok (some (first, last)) := by
  simp only [Window.rowRange, if_neg positive]
  cases Window.pageOf limit offset with
  | error overflow => exact Or.inl ⟨overflow, rfl⟩
  | ok page => exact Or.inr ⟨page.1, page.2, rfl⟩

theorem cutPage_ranked (limit offset : UInt64)
    (ranked : Sql.hasRankingColumn (String.ofList sql) = true) :
    (∃ text, Statement.cutPage (String.ofList sql) limit offset = .ok text) ∨
    ∃ overflow, Statement.cutPage (String.ofList sql) limit offset
      = .error (.overflow overflow) := by
  by_cases zero : limit = 0
  · rw [zero]
    exact Or.inl ⟨_, cutPage_zero ranked⟩
  · rcases rowRange_of_positive offset zero with ⟨overflow, range⟩ | ⟨first, last, range⟩
    · exact Or.inr ⟨overflow, cutPage_overflow ranked range⟩
    · exact Or.inl ⟨_, cutPage_page ranked range⟩

end Page

private theorem prepares_clean {statement : String}
    (prepared : connection.prepare request = .ok statement) :
    '\x60' ∉ statement.toList := by
  obtain ⟨closing, shape⟩ := Statement.finish_shape prepared
  rw [shape]
  intro member
  have kept := (List.mem_filter.mp member).2
  exact absurd kept (by decide)

/-- Every request is prepared in this way. -/
theorem prepares (connection : Connection) (request : Request) :
    connection.Prepares request where
  unlimited := sends_unlimited
  limited := fun _ limited first => sends_limited limited first
  unranked := by
    intro limit offset limited shifted
    rw [prepare_of_window limited shifted]
    cases ranked : Sql.hasRankingColumn
        (String.ofList (connection.bound request (connection.expanded request))) with
    | false =>
        rw [cutPage_unranked ranked]
        exact ⟨fun _ => rfl, fun _ => ⟨_, rfl⟩⟩
    | true =>
        constructor
        · rintro ⟨text, refused⟩
          rcases cutPage_ranked limit offset ranked with ⟨page, cut⟩ | ⟨overflow, cut⟩
          · rw [cut] at refused
            cases refused
          · rw [cut] at refused
            cases refused
        · intro impossible
          cases impossible
  whole := by
    intro offset limited shifted ranked
    rw [Sends, prepare_of_window limited shifted, cutPage_zero ranked, ← stripBackticks_ofList]
    rfl
  paged := by
    intro limit offset limited shifted positive ranked
    rcases rowRange_of_positive offset positive with ⟨overflow, range⟩ | ⟨first, last, range⟩
    · refine Or.inl ⟨overflow, range, ?_⟩
      rw [prepare_of_window limited shifted, cutPage_overflow ranked range]
      rfl
    · refine Or.inr ⟨first, last, range, ?_⟩
      rw [Sends, prepare_of_window limited shifted, cutPage_page ranked range,
        ← stripBackticks_ofList]
      rfl
  clean := fun _ prepared => prepares_clean prepared
  succeeds := by
    intro missing
    cases limited : request.limit with
    | none => exact ⟨_, sends_unlimited limited⟩
    | some limit =>
        rw [limited] at missing
        rcases missing with none | first
        · cases none
        · exact ⟨_, sends_limited limited first⟩

end Connection

end RemoteQuery
