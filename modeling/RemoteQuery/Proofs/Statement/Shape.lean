import RemoteQuery.Proofs.Literal
import RemoteQuery.Statement
set_option autoImplicit false

/-! The shape of the text that is sent.  It is the statement with its literals, with the
clauses of a window around it if a page is cut out; then blanks and semicolons are taken
from the end of the statement first.  No backtick is left. -/

namespace RemoteQuery

namespace Window

def cutsPage : Option Window → Bool
  | some { limit := some limit, .. } => limit != 0
  | _ => false

def opening (window : Option Window) : List Char :=
  if cutsPage window then "SELECT * FROM (".toList else []

def kept (window : Option Window) (bound : List Char) : List Char :=
  if cutsPage window then Statement.trim bound else bound

end Window

namespace Statement

def shown (text : List Char) : List Char := text.filter fun c => c != '\x60'

theorem shown_append (first second : List Char) :
    shown (first ++ second) = shown first ++ shown second :=
  List.filter_append first second

theorem shown_cons {c : Char} (noBacktick : c ≠ '\x60') (rest : List Char) :
    shown (c :: rest) = c :: shown rest := by
  have stays : (c != '\x60') = true := bne_iff_ne.mpr noBacktick
  rw [shown, shown, List.filter_cons, stays, if_pos rfl]

private theorem stripBackticks_toList (sql : String) :
    (stripBackticks sql).toList = shown sql.toList :=
  String.toList_ofList

/-! ### What trimming a statement takes -/

/-- One run of semicolons is taken, with the blanks around it. -/
theorem trim_parts (sql : List Char) :
    ∃ front marks back, trim sql ++ (front ++ (marks ++ back)) = sql ∧
      (∀ c, c ∈ front → Text.isBlank c = true) ∧ (∀ c, c ∈ marks → c = ';') ∧
      ∀ c, c ∈ back → Text.isBlank c = true := by
  obtain ⟨back, sameBack, blankBack⟩ := Text.dropEndWhile_append Text.isBlank sql
  obtain ⟨marks, sameMarks, semicolons⟩ :=
    Text.dropEndWhile_append (fun c => c == ';') (Text.trimEnd sql)
  obtain ⟨front, sameFront, blankFront⟩ := Text.dropEndWhile_append Text.isBlank
    (Text.dropEndWhile (fun c => c == ';') (Text.trimEnd sql))
  refine ⟨front, marks, back, ?_, blankFront, fun c member => beq_iff_eq.mp (semicolons c member),
    blankBack⟩
  rw [← List.append_assoc, ← List.append_assoc, trim, Text.trimEnd, sameFront, sameMarks]
  exact sameBack

theorem trim_append (sql : List Char) : ∃ dropped, trim sql ++ dropped = sql := by
  obtain ⟨front, marks, back, same, _⟩ := trim_parts sql
  exact ⟨front ++ (marks ++ back), same⟩

theorem trim_of_visible {c : Char} (visible : Text.isBlank c = false) (solid : c ≠ ';')
    (before after : List Char) : trim (before ++ c :: after) = before ++ c :: trim after := by
  have stays : (c == ';') = false := beq_eq_false_iff_ne.mpr solid
  rw [trim, trim, Text.trimEnd, Text.trimEnd, Text.dropEndWhile_of_kept _ visible,
    Text.dropEndWhile_of_kept (fun c => c == ';') stays, Text.dropEndWhile_of_kept _ visible]
  rfl

end Statement

namespace Window

theorem kept_append (window : Option Window) (bound : List Char) :
    ∃ dropped, kept window bound ++ dropped = bound := by
  rw [kept]
  cases cutsPage window with
  | false => exact ⟨[], List.append_nil bound⟩
  | true => exact Statement.trim_append bound

theorem kept_of_visible (window : Option Window) {c : Char} (visible : Text.isBlank c = false)
    (solid : c ≠ ';') (before after : List Char) :
    kept window (before ++ c :: after) = before ++ c :: kept window after := by
  rw [kept, kept]
  cases cutsPage window with
  | false => rfl
  | true => exact Statement.trim_of_visible visible solid before after

end Window

namespace Statement

private theorem map_eq_ok {text : Except Failure String} {final : String}
    (mapped : text.map stripBackticks = .ok final) :
    ∃ sql, text = .ok sql ∧ stripBackticks sql = final := by
  cases text with
  | error failure => cases mapped
  | ok sql => exact ⟨sql, rfl, Except.ok.inj mapped⟩

def pageClosing (first last : UInt64) : List Char :=
  (") WHERE " ++ Sql.rankingName ++ " BETWEEN "
    ++ (toString first.toNat ++ " AND " ++ toString last.toNat)).toList

theorem pageClosing_lacks {c : Char} (notDigit : Text.isAsciiDigit c = false)
    (clause : c ∉ (") WHERE " ++ Sql.rankingName ++ " BETWEEN ").toList)
    (joint : c ∉ " AND ".toList) (first last : UInt64) : c ∉ pageClosing first last := by
  have digits (number : Nat) : c ∉ (toString number).toList := by
    rw [show (toString number).toList = Decimal.digitsOf number from Nat.toList_repr]
    intro member
    rw [Literal.digitsOf_digits number c member] at notDigit
    cases notDigit
  simp only [pageClosing, String.toList_append, List.mem_append] at clause ⊢
  simp only [clause, digits, joint, or_self, not_false_eq_true]

private theorem pageClosing_unquoted (first last : UInt64) : '\'' ∉ pageClosing first last :=
  pageClosing_lacks (by decide) (by decide) (by decide) first last

/-- A statement that is sent with clauses around what is kept of it, and no quote in the
one behind. -/
def Enclosed (window : Option Window) (sql sent : List Char) : Prop :=
  ∃ closing, '\'' ∉ closing ∧
    sent = shown (Window.opening window ++ (Window.kept window sql ++ closing))

private theorem uncut_enclosed {sql final : String} {window : Option Window}
    (uncut : Window.cutsPage window = false) (same : stripBackticks sql = final) :
    Enclosed window sql.toList final.toList := by
  refine ⟨[], List.not_mem_nil, ?_⟩
  rw [← same, stripBackticks_toList, Window.opening, Window.kept, uncut,
    if_neg Bool.false_ne_true, if_neg Bool.false_ne_true, List.nil_append, List.append_nil]

private theorem cutPage_enclosed {sql text final : String} {limit offset : UInt64}
    (cut : cutPage sql limit offset = .ok text) (same : stripBackticks text = final) :
    Enclosed (some { limit := some limit, offset := offset }) sql.toList final.toList := by
  rw [cutPage] at cut
  cases ranked : Sql.hasRankingColumn sql with
  | false =>
      rw [ranked] at cut
      cases cut
  | true =>
      rw [ranked] at cut
      simp only [Bool.not_true, Bool.false_eq_true, if_false, Window.rowRange] at cut
      by_cases zero : limit = 0
      · rw [if_pos zero] at cut
        have uncut : Window.cutsPage (some { limit := some limit, offset := offset }) = false := by
          rw [Window.cutsPage, zero]
          rfl
        exact uncut_enclosed uncut ((congrArg stripBackticks (Except.ok.inj cut)).trans same)
      · rw [if_neg zero] at cut
        cases range : Window.pageOf limit offset with
        | error overflow =>
            rw [range] at cut
            cases cut
        | ok page =>
            rw [range] at cut
            have cuts : Window.cutsPage (some { limit := some limit, offset := offset }) = true :=
              bne_iff_ne.mpr zero
            have sameText := Except.ok.inj cut
            refine ⟨pageClosing page.1 page.2, pageClosing_unquoted page.1 page.2, ?_⟩
            rw [← same, ← sameText, stripBackticks_toList, Window.opening, Window.kept, cuts,
              if_pos rfl, if_pos rfl]
            refine congrArg shown ?_
            change ("SELECT * FROM (" ++ String.ofList (trim sql.toList) ++ ") WHERE "
              ++ Sql.rankingName ++ " BETWEEN "
              ++ (toString page.1.toNat ++ " AND " ++ toString page.2.toNat)).toList = _
            simp only [pageClosing, String.toList_append, String.toList_ofList,
              List.append_assoc]

theorem finish_enclosed {sql final : String} {window : Option Window}
    (finished : finish sql window = .ok final) :
    Enclosed window sql.toList final.toList := by
  cases window with
  | none => exact uncut_enclosed rfl (Except.ok.inj finished)
  | some window =>
      obtain ⟨limit, offset⟩ := window
      cases limit with
      | none => exact uncut_enclosed rfl (Except.ok.inj finished)
      | some limit =>
          obtain ⟨text, cut, same⟩ := map_eq_ok finished
          exact cutPage_enclosed cut same

theorem finish_shape {sql final : String} {window : Option Window}
    (finished : finish sql window = .ok final) :
    ∃ closing, final.toList
      = shown (Window.opening window ++ (Window.kept window sql.toList ++ closing)) := by
  obtain ⟨closing, _, shape⟩ := finish_enclosed finished
  exact ⟨closing, shape⟩

end Statement

end RemoteQuery
