import Mathlib.Logic.Relation
import RemoteQuery.Proofs.Text.Case
import RemoteQuery.Sql.Ranking
set_option autoImplicit false

/-! Where the ranking column is looked for in a statement that can be read.  A part of a
statement directly holds other parts: a query its common table expressions and its body, a body
its operands or its sources, a source the relations that it names or joins.  The check goes
along every chain of such steps, and so it finds a windowed call named `rn` exactly if one stands
in the select list of a body that some chain leads to. -/

namespace RemoteQuery.Sql

/-- A part of a statement that the check may come to. -/
inductive Part where
  | query (content : Query)
  | body (content : Body)
  | source (content : Source)
  | relation (content : Relation)

namespace Part

/-- One part stands directly in another.  Select items hold nothing: what an expression is made
of is no part of the statement in this sense. -/
inductive Holds : Part → Part → Prop where
  | table {tables : List Query} {body : Body} (table : Query) (member : table ∈ tables) :
      Holds (.query (.mk tables body)) (.query table)
  | body {tables : List Query} {body : Body} : Holds (.query (.mk tables body)) (.body body)
  | parenthesised {query : Query} : Holds (.body (.parenthesised query)) (.query query)
  | left {left right : Body} : Holds (.body (.setOperation left right)) (.body left)
  | right {left right : Body} : Holds (.body (.setOperation left right)) (.body right)
  | source {items : List Item} {sources : List Source} (source : Source)
      (member : source ∈ sources) : Holds (.body (.select items sources)) (.source source)
  | relation {relation : Relation} {joined : List Relation} :
      Holds (.source (.mk relation joined)) (.relation relation)
  | partner {relation : Relation} {joined : List Relation} (partner : Relation)
      (member : partner ∈ joined) : Holds (.source (.mk relation joined)) (.relation partner)
  | derived {query : Query} : Holds (.relation (.derived query)) (.query query)
  | nestedJoin {source : Source} : Holds (.relation (.nestedJoin source)) (.source source)

/-- Any number of steps, each into a part that stands in the one before. -/
def Reaches : Part → Part → Prop := Relation.ReflTransGen Holds

def hasRanking : Part → Bool
  | query content => content.hasRanking
  | body content => content.hasRanking
  | source content => content.hasRanking
  | relation content => content.hasRanking

end Part

/-- The item is itself a call with an `OVER` clause, and is given the name `rn` in any case. -/
structure IsRankingItem (item : Item) : Prop where
  windowed : item.shape = .call true
  named : ∃ name, item.label = some name ∧ name ∈ ["rn", "rN", "Rn", "RN"]

/-- The part is a `SELECT` with a ranking item in its select list. -/
def Part.SelectsRanking (part : Part) : Prop :=
  ∃ items sources, part = .body (.select items sources) ∧
    ∃ item, item ∈ items ∧ IsRankingItem item

/-- From a query among the statements some chain of steps leads to such a `SELECT`. -/
def ReachesRanking (statements : List Statement) : Prop :=
  ∃ query, Statement.query query ∈ statements ∧
    ∃ part, (Part.query query).Reaches part ∧ part.SelectsRanking

/-! ### Items -/

private theorem equalsIgnoringAsciiCase_rankingName (name : String) :
    Text.equalsIgnoringAsciiCase name rankingName = true
      ↔ name ∈ ["rn", "rN", "Rn", "RN"] := by
  have small : rankingName.toList.map Char.toLower = ['r', 'n'] := rfl
  have capitals : 'r'.toUpper = 'R' ∧ 'n'.toUpper = 'N' := ⟨rfl, rfl⟩
  have spelled (spelling : String) : name = spelling ↔ name.toList = spelling.toList :=
    String.toList_inj.symm
  rw [Text.equalsIgnoringAsciiCase, beq_iff_eq, small]
  simp only [List.map_eq_cons_iff, List.map_eq_nil_iff, List.mem_cons, List.not_mem_nil, or_false,
    spelled]
  constructor
  · rintro ⟨first, rest, text, isR, second, last, restEq, isN, lastEq⟩
    rw [Text.toLower_eq_iff _ _ (by decide), capitals.1] at isR
    rw [Text.toLower_eq_iff _ _ (by decide), capitals.2] at isN
    subst lastEq restEq
    rw [text]
    rcases isR with rfl | rfl <;> rcases isN with rfl | rfl <;> decide
  · rintro (text | text | text | text) <;> exact ⟨_, _, text, rfl, _, _, rfl, rfl, rfl⟩

theorem isRanking_iff (item : Item) : item.isRanking = true ↔ IsRankingItem item := by
  obtain ⟨shape, label⟩ := item
  constructor
  · intro ranking
    unfold Item.isRanking at ranking
    split at ranking
    · rename_i name sameShape sameLabel
      exact ⟨sameShape, name, sameLabel, (equalsIgnoringAsciiCase_rankingName name).mp ranking⟩
    · cases ranking
  · rintro ⟨windowed, name, labelled, member⟩
    change shape = .call true at windowed
    change label = some name at labelled
    subst windowed labelled
    exact (equalsIgnoringAsciiCase_rankingName name).mpr member

/-! ### One step of the check -/

private theorem anyHasRanking_queries (queries : List Query) :
    Query.anyHasRanking queries = true ↔ ∃ query, query ∈ queries ∧ query.hasRanking = true := by
  induction queries with
  | nil => simp [Query.anyHasRanking]
  | cons query others inductionHypothesis => simp [Query.anyHasRanking, inductionHypothesis]

private theorem anyHasRanking_sources (sources : List Source) :
    Source.anyHasRanking sources = true
      ↔ ∃ source, source ∈ sources ∧ source.hasRanking = true := by
  induction sources with
  | nil => simp [Source.anyHasRanking]
  | cons source others inductionHypothesis => simp [Source.anyHasRanking, inductionHypothesis]

private theorem anyHasRanking_relations (relations : List Relation) :
    Relation.anyHasRanking relations = true
      ↔ ∃ relation, relation ∈ relations ∧ relation.hasRanking = true := by
  induction relations with
  | nil => simp [Relation.anyHasRanking]
  | cons relation others inductionHypothesis =>
      simp [Relation.anyHasRanking, inductionHypothesis]

namespace Part

theorem Holds.hasRanking {outer inner : Part} (holds : outer.Holds inner)
    (ranked : inner.hasRanking = true) : outer.hasRanking = true := by
  cases holds with
  | table table member =>
      have found := (anyHasRanking_queries _).mpr ⟨table, member, ranked⟩
      exact Bool.or_eq_true_iff.mpr (Or.inl found)
  | body => exact Bool.or_eq_true_iff.mpr (Or.inr ranked)
  | parenthesised => exact ranked
  | left => exact Bool.or_eq_true_iff.mpr (Or.inl ranked)
  | right => exact Bool.or_eq_true_iff.mpr (Or.inr ranked)
  | source source member =>
      have found := (anyHasRanking_sources _).mpr ⟨source, member, ranked⟩
      exact Bool.or_eq_true_iff.mpr (Or.inr found)
  | relation => exact Bool.or_eq_true_iff.mpr (Or.inl ranked)
  | partner partner member =>
      have found := (anyHasRanking_relations _).mpr ⟨partner, member, ranked⟩
      exact Bool.or_eq_true_iff.mpr (Or.inr found)
  | derived => exact ranked
  | nestedJoin => exact ranked

theorem SelectsRanking.hasRanking {part : Part} (selects : part.SelectsRanking) :
    part.hasRanking = true := by
  obtain ⟨items, sources, rfl, item, member, ranking⟩ := selects
  have found := List.any_eq_true.mpr ⟨item, member, (isRanking_iff item).mpr ranking⟩
  exact Bool.or_eq_true_iff.mpr (Or.inl found)

/-- A part that the check accepts has a ranking item itself, or holds a part that is accepted. -/
theorem selects_or_holds {part : Part} (ranked : part.hasRanking = true) :
    part.SelectsRanking ∨ ∃ inner, part.Holds inner ∧ inner.hasRanking = true := by
  cases part with
  | query content =>
      obtain ⟨tables, body⟩ := content
      right
      rcases Bool.or_eq_true_iff.mp ranked with inTables | inBody
      · obtain ⟨table, member, found⟩ := (anyHasRanking_queries tables).mp inTables
        exact ⟨_, .table table member, found⟩
      · exact ⟨_, .body, inBody⟩
  | body content =>
      cases content with
      | select items sources =>
          rcases Bool.or_eq_true_iff.mp ranked with inItems | inSources
          · obtain ⟨item, member, found⟩ := List.any_eq_true.mp inItems
            exact Or.inl ⟨items, sources, rfl, item, member, (isRanking_iff item).mp found⟩
          · obtain ⟨source, member, found⟩ := (anyHasRanking_sources sources).mp inSources
            exact Or.inr ⟨_, .source source member, found⟩
      | parenthesised query => exact Or.inr ⟨_, .parenthesised, ranked⟩
      | setOperation left right =>
          right
          rcases Bool.or_eq_true_iff.mp ranked with inLeft | inRight
          · exact ⟨_, .left, inLeft⟩
          · exact ⟨_, .right, inRight⟩
      | other => cases ranked
  | source content =>
      obtain ⟨relation, joined⟩ := content
      right
      rcases Bool.or_eq_true_iff.mp ranked with inRelation | inJoined
      · exact ⟨_, .relation, inRelation⟩
      · obtain ⟨partner, member, found⟩ := (anyHasRanking_relations joined).mp inJoined
        exact ⟨_, .partner partner member, found⟩
  | relation content =>
      cases content with
      | derived query => exact Or.inr ⟨_, .derived, ranked⟩
      | nestedJoin source => exact Or.inr ⟨_, .nestedJoin, ranked⟩
      | other => cases ranked

/-! ### Chains of steps -/

theorem Holds.sizeOf_lt {outer inner : Part} (holds : outer.Holds inner) :
    sizeOf inner < sizeOf outer := by
  cases holds with
  | table table member =>
      have smaller := List.sizeOf_lt_of_mem member
      simp only [query.sizeOf_spec, Query.mk.sizeOf_spec]
      omega
  | source source member =>
      have smaller := List.sizeOf_lt_of_mem member
      simp only [Part.source.sizeOf_spec, body.sizeOf_spec, Body.select.sizeOf_spec]
      omega
  | partner partner member =>
      have smaller := List.sizeOf_lt_of_mem member
      simp only [Part.relation.sizeOf_spec, source.sizeOf_spec, Source.mk.sizeOf_spec]
      omega
  | body =>
      simp only [query.sizeOf_spec, Part.body.sizeOf_spec, Query.mk.sizeOf_spec]
      omega
  | parenthesised =>
      simp only [query.sizeOf_spec, body.sizeOf_spec, Body.parenthesised.sizeOf_spec]
      omega
  | left =>
      simp only [body.sizeOf_spec, Body.setOperation.sizeOf_spec]
      omega
  | right =>
      simp only [body.sizeOf_spec, Body.setOperation.sizeOf_spec]
      omega
  | relation =>
      simp only [source.sizeOf_spec, Part.relation.sizeOf_spec, Source.mk.sizeOf_spec]
      omega
  | derived =>
      simp only [relation.sizeOf_spec, query.sizeOf_spec, Relation.derived.sizeOf_spec]
      omega
  | nestedJoin =>
      simp only [relation.sizeOf_spec, source.sizeOf_spec, Relation.nestedJoin.sizeOf_spec]
      omega

private theorem hasRanking_of_reaches {outer inner : Part} (reaches : outer.Reaches inner)
    (ranked : inner.hasRanking = true) : outer.hasRanking = true := by
  induction reaches using Relation.ReflTransGen.head_induction_on with
  | refl => exact ranked
  | head holds _ inductionHypothesis => exact holds.hasRanking inductionHypothesis

/-- The search comes to its end because every step leads to a smaller part. -/
theorem exists_reached {part : Part} (ranked : part.hasRanking = true) :
    ∃ reached, part.Reaches reached ∧ reached.SelectsRanking := by
  rcases selects_or_holds ranked with selects | ⟨inner, holds, found⟩
  · exact ⟨part, .refl, selects⟩
  · have smaller := holds.sizeOf_lt
    obtain ⟨reached, reaches, selects⟩ := exists_reached found
    exact ⟨reached, .head holds reaches, selects⟩
termination_by sizeOf part

theorem hasRanking_iff (part : Part) :
    part.hasRanking = true ↔ ∃ reached, part.Reaches reached ∧ reached.SelectsRanking := by
  constructor
  · exact exists_reached
  · rintro ⟨reached, reaches, selects⟩
    exact hasRanking_of_reaches reaches selects.hasRanking

end Part

theorem any_hasRanking_iff (statements : List Statement) :
    statements.any Statement.hasRanking = true ↔ ReachesRanking statements := by
  rw [List.any_eq_true]
  constructor
  · rintro ⟨statement, member, ranked⟩
    cases statement with
    | query content => exact ⟨content, member, (Part.query content).hasRanking_iff.mp ranked⟩
    | other => cases ranked
  · rintro ⟨query, member, found⟩
    exact ⟨.query query, member, (Part.query query).hasRanking_iff.mpr found⟩

/-- Whatever statements a text is read as, the check goes by what their queries reach, and by
nothing else. -/
theorem hasRankingColumn_read (statements : List Statement) :
    (statements.any Statement.hasRanking = true ↔ ReachesRanking statements) ∧
      ∀ text, parse text = some statements →
        (hasRankingColumn text = true ↔ ReachesRanking statements) := by
  refine ⟨any_hasRanking_iff statements, ?_⟩
  intro text read
  rw [hasRankingColumn, read]
  exact any_hasRanking_iff statements

/-- A subquery in an expression, a function in another expression, and a query that is not a
statement of its own do not count. -/
example :
    (["SELECT (SELECT rank() OVER () rn)", "SELECT 1 + rank() OVER () rn",
      "INSERT INTO a SELECT rank() OVER () rn"].all fun text =>
        (parse text).isSome && !hasRankingColumn text) = true := by
  decide +kernel

def nestedText : String :=
  "DROP TABLE a; WITH r AS (SELECT 1 FROM (a JOIN "
    ++ "(SELECT rank() OVER () Rn FROM b) c)) TABLE r"

theorem hasRankingColumn_read_nested :
    ∃ statements, parse nestedText = some statements ∧ ReachesRanking statements := by
  have found : (parse nestedText).any (fun statements => statements.any Statement.hasRanking)
      = true := by decide +kernel
  obtain ⟨statements, read, ranked⟩ := (Option.any_eq_true _ _).mp found
  have passes : hasRankingColumn nestedText = true := by
    rw [hasRankingColumn, read]
    exact ranked
  exact ⟨statements, read, ((hasRankingColumn_read statements).2 nestedText read).mp passes⟩

end RemoteQuery.Sql
