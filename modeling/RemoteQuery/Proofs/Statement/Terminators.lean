import Mathlib.Data.List.DropRight
import RemoteQuery.Proofs.Statement.Prepared
set_option autoImplicit false

/-! Semicolons and blanks at the end of a statement.  Trimming takes one run of semicolons
with the blanks around it.  So it comes to the longest part that ends in neither exactly when
all of the semicolons at the end stand in one run; otherwise the semicolon in front of the
last gap is left, and a clause that is appended comes behind it. -/

namespace RemoteQuery.Statement

/-- What may stand behind the last word of a statement. -/
def isTerminal (c : Char) : Bool := Text.isBlank c || c == ';'

/-- A text that ends in neither a blank nor a semicolon. -/
def EndsSolid (text : List Char) : Prop :=
  ∀ last, text.getLast? = some last → isTerminal last = false

structure LongestSolid (sql solid : List Char) : Prop where
  part : solid <+: sql
  ends : EndsSolid solid
  longest : ∀ other, other <+: sql → EndsSolid other → other <+: solid

def ending (sql : List Char) : List Char := sql.rtakeWhile isTerminal

/-- Blanks and semicolons without a blank between two semicolons. -/
def OneRun (tail : List Char) : Prop :=
  ∃ front marks back, tail = front ++ (marks ++ back) ∧
    (∀ c, c ∈ front → Text.isBlank c = true) ∧ (∀ c, c ∈ marks → c = ';') ∧
    ∀ c, c ∈ back → Text.isBlank c = true

/-- What trimming takes from a statement, and what is left in front of clauses behind it. -/
structure TrimsOneRun (sql : List Char) : Prop where
  taken : ∃ dropped, trim sql ++ dropped = sql ∧ OneRun dropped
  unblank : ∀ last, (trim sql).getLast? = some last → Text.isBlank last = false
  longest_iff : LongestSolid sql (trim sql) ↔ OneRun (ending sql)
  idempotent_iff : trim (trim sql) = trim sql ↔ OneRun (ending sql)
  limited : ∀ tablePrefix (request : Request) limit,
    expandPrefix tablePrefix.toList request.sql.toList = sql →
    request.limit = some limit → request.offset = none →
    ∃ before, (compile tablePrefix request).sql.toList
        = before ++ Connection.limitClause limit ∧
      (∀ last, before.getLast? = some last → Text.isBlank last = false) ∧
      (EndsSolid before ↔ OneRun (ending sql))
  paged : ∀ limit offset first last, Sql.hasRankingColumn (String.ofList sql) = true →
    Window.rowRange { limit := some limit, offset := offset } = .ok (some (first, last)) →
    ∃ before, cutPage (String.ofList sql) limit offset
        = .ok (String.ofList ("SELECT * FROM (".toList ++ (before ++ pageClosing first last))) ∧
      (∀ last, before.getLast? = some last → Text.isBlank last = false) ∧
      (EndsSolid before ↔ OneRun (ending sql))

variable {sql text tail : List Char}

/-! ### Dropping from the end -/

theorem rdropWhile_eq_self_iff_last (drop : Char → Bool) :
    text.rdropWhile drop = text ↔ ∀ last, text.getLast? = some last → drop last = false := by
  rw [List.rdropWhile_eq_self_iff]
  constructor
  · intro stays last found
    obtain ⟨front, rfl⟩ := List.getLast?_eq_some_iff.mp found
    have stop := stays (by simp)
    simpa using stop
  · intro stays filled
    rw [stays _ (List.getLast?_eq_some_getLast filled)]
    exact Bool.false_ne_true

private theorem rdropWhile_append_of_all {drop : Char → Bool} (kept : List Char)
    (droppable : ∀ c, c ∈ tail → drop c = true) :
    (kept ++ tail).rdropWhile drop = kept.rdropWhile drop := by
  unfold List.rdropWhile
  rw [List.reverse_append, List.dropWhile_append_of_pos]
  intro c member
  exact droppable c (List.mem_reverse.mp member)

theorem endsSolid_iff : EndsSolid text ↔ text.rdropWhile isTerminal = text :=
  (rdropWhile_eq_self_iff_last isTerminal).symm

private theorem isTerminal_of_mem_ending {c : Char} (member : c ∈ ending sql) :
    isTerminal c = true :=
  List.mem_rtakeWhile_imp member

private theorem longestSolid_rdropWhile (sql : List Char) :
    LongestSolid sql (sql.rdropWhile isTerminal) where
  part := List.rdropWhile_prefix isTerminal sql
  ends := endsSolid_iff.mpr (List.rdropWhile_idempotent isTerminal sql)
  longest := by
    intro other part solid
    rcases List.prefix_or_prefix_of_prefix part (List.rdropWhile_prefix isTerminal sql) with
      shorter | ⟨more, longer⟩
    · exact shorter
    · obtain ⟨rest, same⟩ := part
      have inEnding : more ++ rest = ending sql := by
        rw [← longer, List.append_assoc] at same
        exact List.append_cancel_left (same.trans List.rdropWhile_append_rtakeWhile.symm)
      have terminal : ∀ c, c ∈ more → isTerminal c = true := by
        intro c member
        apply @isTerminal_of_mem_ending sql
        rw [← inEnding]
        exact List.mem_append_left rest member
      have equal := endsSolid_iff.mp solid
      rw [← longer, rdropWhile_append_of_all _ terminal, List.rdropWhile_idempotent, longer]
        at equal
      exact equal ▸ List.prefix_rfl

/-! ### Trimming -/

theorem trim_eq (sql : List Char) :
    trim sql = ((sql.rdropWhile Text.isBlank).rdropWhile fun c => c == ';').rdropWhile
      Text.isBlank := rfl

theorem trim_taken (sql : List Char) : ∃ dropped, trim sql ++ dropped = sql ∧ OneRun dropped := by
  obtain ⟨front, marks, back, same, blankFront, semicolons, blankBack⟩ := trim_parts sql
  exact ⟨front ++ (marks ++ back), same, front, marks, back, rfl, blankFront, semicolons,
    blankBack⟩

theorem OneRun.isTerminal (run : OneRun tail) {c : Char} (member : c ∈ tail) :
    isTerminal c = true := by
  obtain ⟨front, marks, back, rfl, blankFront, semicolons, blankBack⟩ := run
  unfold Statement.isTerminal
  simp only [List.mem_append] at member
  rcases member with here | here | here
  · rw [blankFront c here, Bool.true_or]
  · rw [semicolons c here]
    rfl
  · rw [blankBack c here, Bool.true_or]

private theorem trim_unblank (sql : List Char) :
    ∀ last, (trim sql).getLast? = some last → Text.isBlank last = false := by
  rw [← rdropWhile_eq_self_iff_last Text.isBlank, trim_eq, List.rdropWhile_idempotent]

/-- What ends solid is kept, whatever comes behind it. -/
theorem trim_append_of_endsSolid (solid : EndsSolid text) (tail : List Char) :
    trim (text ++ tail) = text ++ trim tail := by
  rcases List.eq_nil_or_concat text with rfl | ⟨front, last, rfl⟩
  · rfl
  · have stays := solid last (by simp)
    unfold isTerminal at stays
    rw [Bool.or_eq_false_iff, beq_eq_false_iff_ne] at stays
    rw [List.concat_eq_append, List.append_assoc, List.append_assoc]
    exact trim_of_visible stays.1 stays.2 front tail

private theorem trim_eq_append (sql : List Char) :
    trim sql = sql.rdropWhile isTerminal ++ trim (ending sql) := by
  rw [← trim_append_of_endsSolid (longestSolid_rdropWhile sql).ends, ending,
    List.rdropWhile_append_rtakeWhile]

theorem trim_eq_nil_iff : trim tail = [] ↔ OneRun tail := by
  constructor
  · intro nothing
    obtain ⟨dropped, same, run⟩ := trim_taken tail
    rw [nothing, List.nil_append] at same
    exact same ▸ run
  · rintro ⟨front, marks, back, rfl, blankFront, semicolons, blankBack⟩
    rw [trim_eq, ← List.append_assoc, rdropWhile_append_of_all _ blankBack]
    rcases List.eq_nil_or_concat marks with rfl | ⟨init, last, rfl⟩
    · have gone : front.rdropWhile Text.isBlank = [] := List.rdropWhile_eq_nil_iff.mpr blankFront
      rw [List.append_nil, gone]
      rfl
    · have isMark : last = ';' := semicolons last (by simp)
      have stop : ¬ Text.isBlank last = true := by
        rw [isMark]
        decide
      have marked : ∀ c, c ∈ init.concat last → (c == ';') = true := by
        intro c member
        exact beq_iff_eq.mpr (semicolons c member)
      have kept : (front ++ init.concat last).rdropWhile Text.isBlank
          = front ++ init.concat last := by
        rw [List.concat_eq_append, ← List.append_assoc, List.rdropWhile_concat_neg _ _ _ stop]
      rw [kept, rdropWhile_append_of_all front marked, List.rdropWhile_eq_nil_iff]
      intro c member
      exact blankFront c ((List.rdropWhile_prefix _ front).subset member)

theorem endsSolid_trim_iff : EndsSolid (trim sql) ↔ OneRun (ending sql) := by
  rw [← trim_eq_nil_iff]
  constructor
  · intro solid
    obtain ⟨dropped, same, _⟩ := trim_taken sql
    obtain ⟨rest, shorter⟩ := (longestSolid_rdropWhile sql).longest _ ⟨dropped, same⟩ solid
    rw [trim_eq_append, List.append_assoc] at shorter
    exact (List.append_eq_nil_iff.mp (List.append_right_eq_self.mp shorter)).1
  · intro nothing
    rw [trim_eq_append, nothing, List.append_nil]
    exact (longestSolid_rdropWhile sql).ends

theorem longestSolid_trim_iff : LongestSolid sql (trim sql) ↔ OneRun (ending sql) := by
  rw [← endsSolid_trim_iff]
  constructor
  · exact LongestSolid.ends
  · intro solid
    obtain ⟨dropped, same, _⟩ := trim_taken sql
    refine ⟨⟨dropped, same⟩, solid, ?_⟩
    intro other part otherSolid
    have within := (longestSolid_rdropWhile sql).longest other part otherSolid
    rw [trim_eq_append]
    exact within.trans (List.prefix_append _ _)

theorem trim_eq_self_iff : trim text = text ↔ EndsSolid text := by
  constructor
  · intro same last found
    have blank := trim_unblank text last (same.symm ▸ found)
    have untouched : text.rdropWhile Text.isBlank = text := by
      rw [rdropWhile_eq_self_iff_last]
      exact same ▸ trim_unblank text
    have shorter : trim text <+: text.rdropWhile fun c => c == ';' := by
      rw [trim_eq, untouched]
      exact List.rdropWhile_prefix _ _
    rw [same] at shorter
    have kept : text.rdropWhile (fun c => c == ';') = text :=
      (List.rdropWhile_prefix _ text).eq_of_length_le shorter.length_le
    have mark := (rdropWhile_eq_self_iff_last _).mp kept last found
    rw [isTerminal, blank, mark]
    rfl
  · intro solid
    have alone := trim_append_of_endsSolid solid []
    rwa [List.append_nil, show trim [] = [] from rfl, List.append_nil] at alone

/-! ### Clauses behind a statement -/

theorem compile_limited {tablePrefix : String} {request : Request} {limit : UInt64}
    (limited : request.limit = some limit) (first : request.offset = none) :
    (compile tablePrefix request).sql.toList
      = trim (expandPrefix tablePrefix.toList request.sql.toList)
        ++ Connection.limitClause limit := by
  rw [compile, limited, first]
  simp only [compileLimit, String.toList_ofList, Connection.limitClause, String.toList_append]
  rfl

theorem cutPage_closed {limit offset first last : UInt64}
    (ranked : Sql.hasRankingColumn (String.ofList sql) = true)
    (range : Window.rowRange { limit := some limit, offset := offset }
      = .ok (some (first, last))) :
    cutPage (String.ofList sql) limit offset
      = .ok (String.ofList ("SELECT * FROM (".toList ++ (trim sql ++ pageClosing first last))) := by
  have same : Connection.pageOf sql first last
      = "SELECT * FROM (".toList ++ (trim sql ++ pageClosing first last) := by
    have clause : ") WHERE rn BETWEEN " = ") WHERE " ++ Sql.rankingName ++ " BETWEEN " := by
      decide
    simp only [Connection.pageOf, pageClosing, clause, String.toList_append,
      String.toList_ofList, List.append_assoc]
  rw [Connection.cutPage_page ranked range, same]

theorem trims_oneRun (sql : List Char) : TrimsOneRun sql where
  taken := trim_taken sql
  unblank := trim_unblank sql
  longest_iff := longestSolid_trim_iff
  idempotent_iff := trim_eq_self_iff.trans endsSolid_trim_iff
  limited := by
    rintro tablePrefix request limit rfl limited first
    exact ⟨_, compile_limited limited first, trim_unblank _, endsSolid_trim_iff⟩
  paged := by
    intro limit offset first last ranked range
    exact ⟨_, cutPage_closed ranked range, trim_unblank sql, endsSolid_trim_iff⟩

def firstFive (sql : String) : Request :=
  { sql := sql, bindings := [], limit := some 5, offset := none }

theorem trims_oneRun_mixed :
    OneRun (ending "SELECT 1 ;; \n".toList) ∧
      LongestSolid "SELECT 1 ;; \n".toList (trim "SELECT 1 ;; \n".toList) ∧
      ∃ before, (compile "" (firstFive "SELECT 1 ;; \n")).sql.toList
          = before ++ Connection.limitClause 5 ∧ EndsSolid before := by
  have run : OneRun (ending "SELECT 1 ;; \n".toList) :=
    ⟨[' '], List.replicate 2 ';', [' ', '\n'], by decide,
      List.all_eq_true.mp (show [' '].all Text.isBlank = true by decide),
      fun _ => List.eq_of_mem_replicate,
      List.all_eq_true.mp (show [' ', '\n'].all Text.isBlank = true by decide)⟩
  obtain ⟨before, sent, _, solid⟩ := (trims_oneRun "SELECT 1 ;; \n".toList).limited ""
    (firstFive "SELECT 1 ;; \n") 5 (by decide) rfl rfl
  exact ⟨run, (trims_oneRun _).longest_iff.mpr run, before, sent, solid.mpr run⟩

theorem trim_keeps_semicolon :
    ¬ LongestSolid "SELECT 1; ;".toList (trim "SELECT 1; ;".toList) ∧
      trim (trim "SELECT 1; ;".toList) ≠ trim "SELECT 1; ;".toList ∧
      (compile "" (firstFive "SELECT 1; ;")).sql = "SELECT 1; LIMIT 5" := by
  refine ⟨?_, by decide, by decide⟩
  intro longest
  have solid := longest.ends ';' (by decide)
  revert solid
  decide

end RemoteQuery.Statement
