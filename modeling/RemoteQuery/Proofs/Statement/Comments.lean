import RemoteQuery.Proofs.Statement.Terminators
set_option autoImplicit false

/-! Clauses behind a comment.  A statement may end in a comment to the end of its line.
Trimming takes the end of the line away from it, and what is appended comes into the comment.
In every statement whose quotes and brackets are closed, that is the only way in which a
clause is not read as SQL. -/

namespace RemoteQuery.Sql

/-- Where a reader is in a text: between quotes and comments, maybe behind the first character
of a comment's opening, or inside one of them. -/
inductive Place where
  | between
  | minus
  | slash
  | literal
  | name
  | ticked
  | line
  | block
  /-- Behind a star in a block comment. -/
  | star
  deriving Repr, DecidableEq, Inhabited

namespace Place

def endsLine (c : Char) : Bool := c == '\n' || c == '\r'

def opened (c : Char) : Place :=
  if c = '\'' then .literal
  else if c = '"' then .name
  else if c = '\x60' then .ticked
  else if c = '-' then .minus
  else if c = '/' then .slash
  else .between

def next (place : Place) (c : Char) : Place :=
  match place with
  | .between => opened c
  | .minus => if c = '-' then .line else opened c
  | .slash => if c = '*' then .block else opened c
  | .literal => if c = '\'' then .between else .literal
  | .name => if c = '"' then .between else .name
  | .ticked => if c = '\x60' then .between else .ticked
  | .line => if endsLine c then .between else .line
  | .block => if c = '*' then .star else .block
  | .star => if c = '/' then .between else if c = '*' then .star else .block

/-- Outside of quotes and comments. -/
def isLive : Place → Bool
  | .between | .minus | .slash => true
  | _ => false

/-- Inside of what only its own closing ends: quotes, or a block comment. -/
def isEnclosed : Place → Bool
  | .literal | .name | .ticked | .block | .star => true
  | _ => false

end Place

def placeBehind (text : List Char) : Place := text.foldl Place.next .between

namespace Place

theorem isLive_iff {place : Place} (outside : place.isEnclosed = false) :
    place.isLive = true ↔ place ≠ .line := by
  revert outside
  cases place <;> decide

private theorem isLive_next_space (place : Place) : (place.next ' ').isLive = place.isLive := by
  cases place <;> rfl

def marks : List Char := ['\'', '"', '\x60', '-', '/', '*']

private theorem isEnclosed_next {c : Char} (unmarked : c ∉ marks) (place : Place) :
    (place.next c).isEnclosed = place.isEnclosed := by
  simp only [marks, List.mem_cons, List.not_mem_nil, or_false, not_or] at unmarked
  obtain ⟨notQuote, notDouble, notTick, notMinus, notSlash, notStar⟩ := unmarked
  have closed : opened c = .between := by
    unfold opened
    rw [if_neg notQuote, if_neg notDouble, if_neg notTick, if_neg notMinus, if_neg notSlash]
  cases place with
  | between => rw [next, closed]
  | minus => rw [next, if_neg notMinus, closed]; rfl
  | slash => rw [next, if_neg notStar, closed]; rfl
  | literal => rw [next, if_neg notQuote]
  | name => rw [next, if_neg notDouble]
  | ticked => rw [next, if_neg notTick]
  | line =>
      unfold next
      cases endsLine c <;> rfl
  | block => rw [next, if_neg notStar]
  | star => rw [next, if_neg notSlash, if_neg notStar]; rfl

private theorem isEnclosed_foldl {text : List Char} (unmarked : ∀ c, c ∈ text → c ∉ marks)
    (place : Place) : (text.foldl next place).isEnclosed = place.isEnclosed := by
  induction text generalizing place with
  | nil => rfl
  | cons c rest inductionHypothesis =>
      rw [List.foldl_cons,
        inductionHypothesis fun other member => unmarked other (List.mem_cons_of_mem c member),
        isEnclosed_next (unmarked c List.mem_cons_self)]

end Place

private theorem placeBehind_append (first second : List Char) :
    placeBehind (first ++ second) = second.foldl Place.next (placeBehind first) :=
  List.foldl_append

end RemoteQuery.Sql

namespace RemoteQuery.Statement

/-- Where the clauses behind a statement come to stand. -/
structure ClausesRead (sql : List Char) : Prop where
  limited : ∀ tablePrefix (request : Request) limit,
    expandPrefix tablePrefix.toList request.sql.toList = sql →
    request.limit = some limit → request.offset = none →
    ∃ before, (compile tablePrefix request).sql.toList
        = before ++ ("LIMIT " ++ toString limit.toNat).toList ∧
      ((Sql.placeBehind before).isLive = true ↔ Sql.placeBehind (trim sql) ≠ .line)
  paged : ∀ limit offset first last, Sql.hasRankingColumn (String.ofList sql) = true →
    Window.rowRange { limit := some limit, offset := offset } = .ok (some (first, last)) →
    '\x60' ∉ sql →
    ∃ before, finish (String.ofList sql) (some { limit := some limit, offset := offset })
        = .ok (String.ofList (before ++ pageClosing first last)) ∧
      ((Sql.placeBehind before).isLive = true ↔ Sql.placeBehind (trim sql) ≠ .line)

variable {sql : List Char}

private theorem isTerminal_unmarked {c : Char} (terminal : isTerminal c = true) :
    c ∉ Sql.Place.marks := by
  intro member
  simp only [Sql.Place.marks, List.mem_cons, List.not_mem_nil, or_false] at member
  rcases member with rfl | rfl | rfl | rfl | rfl | rfl <;> revert terminal <;> decide

/-- Trimming leaves no quote and no block comment open that is closed in the statement. -/
theorem isEnclosed_trim (sql : List Char) :
    (Sql.placeBehind (trim sql)).isEnclosed = (Sql.placeBehind sql).isEnclosed := by
  obtain ⟨dropped, same, run⟩ := trim_taken sql
  have onward := Sql.Place.isEnclosed_foldl
    (fun c member => isTerminal_unmarked (run.isTerminal member)) (Sql.placeBehind (trim sql))
  rw [← onward, ← Sql.placeBehind_append, same]

private theorem shown_of_clean {text : List Char} (clean : '\x60' ∉ text) : shown text = text := by
  unfold shown
  rw [List.filter_eq_self]
  intro c member
  exact bne_iff_ne.mpr fun same => clean (same ▸ member)

private theorem pageClosing_clean (first last : UInt64) : '\x60' ∉ pageClosing first last :=
  pageClosing_lacks (by decide) (by decide) (by decide) first last

private theorem finish_page {limit offset first last : UInt64}
    (ranked : Sql.hasRankingColumn (String.ofList sql) = true)
    (range : Window.rowRange { limit := some limit, offset := offset }
      = .ok (some (first, last)))
    (clean : '\x60' ∉ sql) :
    finish (String.ofList sql) (some { limit := some limit, offset := offset })
      = .ok (String.ofList ("SELECT * FROM (".toList ++ trim sql ++ pageClosing first last)) := by
  obtain ⟨dropped, same, _⟩ := trim_taken sql
  have cleanTrimmed : '\x60' ∉ trim sql := fun member =>
    clean (same ▸ List.mem_append_left dropped member)
  have cleanOpening : '\x60' ∉ "SELECT * FROM (".toList := by decide
  have cleanText :
      '\x60' ∉ "SELECT * FROM (".toList ++ (trim sql ++ pageClosing first last) := by
    simp only [List.mem_append, cleanOpening, cleanTrimmed, pageClosing_clean first last, or_self,
      not_false_eq_true]
  change (cutPage (String.ofList sql) limit offset).map stripBackticks = _
  rw [cutPage_closed ranked range, List.append_assoc]
  change Except.ok (stripBackticks _) = _
  rw [stripBackticks, String.toList_ofList]
  exact congrArg (fun text => Except.ok (String.ofList text)) (shown_of_clean cleanText)

/-- Behind a statement that ends outside of quotes and block comments, a clause is read unless
what is left of the statement ends in a comment to the end of the line. -/
theorem clauses_read (outside : (Sql.placeBehind sql).isEnclosed = false) : ClausesRead sql where
  limited := by
    rintro tablePrefix request limit rfl limited first
    refine ⟨trim (expandPrefix tablePrefix.toList request.sql.toList) ++ [' '], ?_, ?_⟩
    · rw [compile_limited limited first, Connection.limitClause, List.append_assoc,
        String.toList_append, String.toList_append]
      rfl
    · rw [Sql.placeBehind_append, List.foldl_cons, List.foldl_nil, Sql.Place.isLive_next_space]
      exact Sql.Place.isLive_iff ((isEnclosed_trim _).trans outside)
  paged := by
    intro limit offset first last ranked range clean
    refine ⟨"SELECT * FROM (".toList ++ trim sql, finish_page ranked range clean, ?_⟩
    rw [Sql.placeBehind_append,
      show Sql.placeBehind "SELECT * FROM (".toList = .between from by decide]
    exact Sql.Place.isLive_iff ((isEnclosed_trim sql).trans outside)

theorem clauses_read_commented :
    (Sql.placeBehind "SELECT a -- 'b\nFROM c /* ; */ ;\n".toList).isEnclosed = false ∧
      ∃ before, (compile "" (firstFive "SELECT a -- 'b\nFROM c /* ; */ ;\n")).sql.toList
          = before ++ ("LIMIT " ++ toString (5 : UInt64).toNat).toList ∧
        (Sql.placeBehind before).isLive = true := by
  have outside :
      (Sql.placeBehind "SELECT a -- 'b\nFROM c /* ; */ ;\n".toList).isEnclosed = false := by
    decide
  obtain ⟨before, same, live⟩ := (clauses_read outside).limited ""
    (firstFive "SELECT a -- 'b\nFROM c /* ; */ ;\n") 5 (by decide) rfl rfl
  exact ⟨outside, before, same, live.mpr (by decide)⟩

/-- The end of the line that closed a comment is taken, and the limit is read as a part of
the comment. -/
theorem limit_lost_in_comment :
    ¬ ∀ (tablePrefix : String) (request : Request) limit,
      (Sql.placeBehind (expandPrefix tablePrefix.toList request.sql.toList)).isEnclosed = false →
      request.limit = some limit → request.offset = none →
      ∃ before, (compile tablePrefix request).sql.toList
          = before ++ ("LIMIT " ++ toString limit.toNat).toList ∧
        (Sql.placeBehind before).isLive = true := by
  intro live
  obtain ⟨before, same, read⟩ :=
    live "" (firstFive "SELECT a FROM b -- c\n") 5 (by decide) rfl rfl
  have sent : (compile "" (firstFive "SELECT a FROM b -- c\n")).sql.toList
      = "SELECT a FROM b -- c ".toList ++ ("LIMIT " ++ toString (5 : UInt64).toNat).toList := by
    decide
  have commented : before = "SELECT a FROM b -- c ".toList :=
    List.append_cancel_right (same.symm.trans sent)
  rw [commented] at read
  revert read
  decide

end RemoteQuery.Statement
