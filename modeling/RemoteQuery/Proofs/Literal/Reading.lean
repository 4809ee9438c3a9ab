import RemoteQuery.Proofs.Quotes
set_option autoImplicit false

/-! Reading the literals of a statement.  A quote opens a literal, a doubled quote inside
stands for one, and the first quote that is not doubled closes it.  What is escaped and
quoted is read back, and text without quotes makes no difference wherever it stands. -/

namespace RemoteQuery.Literal

/-- Read a literal whose opening quote has been passed: its text, and what stands behind.
There is none when it is never closed.  `halfway` tells that a quote stands in front, which
closes the literal unless it is doubled. -/
def readRest (halfway : Bool) : List Char → Option (List Char × List Char)
  | [] => if halfway then some ([], []) else none
  | c :: rest =>
      if c = '\'' then
        if halfway then (readRest false rest).map fun (text, behind) => ('\'' :: text, behind)
        else readRest true rest
      else
        if halfway then some ([], c :: rest)
        else (readRest false rest).map fun (text, behind) => (c :: text, behind)

private theorem readRest_length {halfway : Bool} {text content behind : List Char}
    (came : readRest halfway text = some (content, behind)) : behind.length ≤ text.length := by
  induction text generalizing halfway content behind with
  | nil =>
      cases halfway with
      | true =>
          cases came
          exact Nat.le_refl 0
      | false => cases came
  | cons c rest inductionHypothesis =>
      rw [readRest] at came
      by_cases quote : c = '\''
      · rw [if_pos quote] at came
        cases halfway with
        | true =>
            obtain ⟨inner, found, same⟩ := Option.map_eq_some_iff.mp came
            cases same
            exact Nat.le_succ_of_le (inductionHypothesis found)
        | false => exact Nat.le_succ_of_le (inductionHypothesis came)
      · rw [if_neg quote] at came
        cases halfway with
        | true =>
            cases came
            exact Nat.le_refl _
        | false =>
            obtain ⟨inner, found, same⟩ := Option.map_eq_some_iff.mp came
            cases same
            exact Nat.le_succ_of_le (inductionHypothesis found)

/-- The texts of the literals from left to right, unless one is never closed. -/
def readAll : List Char → Option (List (List Char))
  | [] => some []
  | c :: rest =>
      if c = '\'' then
        match _ : readRest false rest with
        | none => none
        | some (text, behind) => (readAll behind).map (text :: ·)
      else readAll rest
termination_by text => text.length
decreasing_by
  · rename_i came
    exact Nat.lt_succ_of_le (readRest_length came)
  · exact Nat.lt_succ_self _

theorem readAll_nil : readAll [] = some [] := by
  rw [readAll]

theorem readAll_other {c : Char} (rest : List Char) (different : c ≠ '\'') :
    readAll (c :: rest) = readAll rest := by
  rw [readAll, if_neg different]

private theorem readAll_unclosed {rest : List Char} (unclosed : readRest false rest = none) :
    readAll ('\'' :: rest) = none := by
  rw [readAll, if_pos rfl]
  split
  · rfl
  · rename_i closed
    rw [unclosed] at closed
    cases closed

private theorem readAll_closed {rest text behind : List Char}
    (closed : readRest false rest = some (text, behind)) :
    readAll ('\'' :: rest) = (readAll behind).map (text :: ·) := by
  rw [readAll, if_pos rfl]
  split
  · rename_i unclosed
    rw [closed] at unclosed
    cases unclosed
  · rename_i found
    rw [closed] at found
    cases found
    rfl

/-! ### Text without quotes -/

theorem readAll_unquoted {text : List Char} (rest : List Char) (unquoted : '\'' ∉ text) :
    readAll (text ++ rest) = readAll rest := by
  induction text with
  | nil => rfl
  | cons c others inductionHypothesis =>
      have different : c ≠ '\'' := fun same => unquoted (same ▸ List.mem_cons_self)
      rw [List.cons_append, readAll_other _ different]
      exact inductionHypothesis fun member => unquoted (List.mem_cons_of_mem c member)

private theorem readRest_unclosed {text : List Char} (unquoted : '\'' ∉ text) :
    readRest false text = none := by
  induction text with
  | nil => rfl
  | cons c others inductionHypothesis =>
      have different : c ≠ '\'' := fun same => unquoted (same ▸ List.mem_cons_self)
      have onward := inductionHypothesis fun member => unquoted (List.mem_cons_of_mem c member)
      rw [readRest, if_neg different, onward]
      rfl

/-- Where a literal ends does not depend on text without quotes at the end. -/
theorem readRest_append {suffix : List Char} (unquoted : '\'' ∉ suffix) (halfway : Bool)
    (text : List Char) :
    readRest halfway (text ++ suffix)
      = (readRest halfway text).map fun read => (read.1, read.2 ++ suffix) := by
  induction text generalizing halfway with
  | nil =>
      cases halfway with
      | false => exact readRest_unclosed unquoted
      | true =>
          cases suffix with
          | nil => rfl
          | cons c others =>
              have different : c ≠ '\'' := fun same => unquoted (same ▸ List.mem_cons_self)
              exact if_neg different
  | cons c rest inductionHypothesis =>
      rw [List.cons_append, readRest, readRest]
      by_cases quote : c = '\''
      · rw [if_pos quote, if_pos quote, inductionHypothesis, inductionHypothesis]
        cases halfway with
        | true => cases readRest false rest <;> rfl
        | false => rfl
      · rw [if_neg quote, if_neg quote, inductionHypothesis]
        cases halfway with
        | true => rfl
        | false => cases readRest false rest <;> rfl

theorem readAll_append {suffix : List Char} (unquoted : '\'' ∉ suffix) (text : List Char) :
    readAll (text ++ suffix) = readAll text := by
  induction text using readAll.induct with
  | case1 =>
      have alone := readAll_unquoted [] unquoted
      rw [List.append_nil] at alone
      exact alone
  | case2 rest unclosed =>
      have same := readRest_append unquoted false rest
      rw [unclosed] at same
      rw [List.cons_append, readAll_unclosed same, readAll_unclosed unclosed]
  | case3 rest content behind closed inductionHypothesis =>
      have same := readRest_append unquoted false rest
      rw [closed] at same
      rw [List.cons_append, readAll_closed same, readAll_closed closed, inductionHypothesis]
  | case4 c rest different inductionHypothesis =>
      rw [List.cons_append, readAll_other _ different, readAll_other _ different]
      exact inductionHypothesis

/-! ### Quoted text -/

/-- A text that does not begin with a quote, so that none of its quotes doubles one in
front of it. -/
def StartsUnquoted (text : List Char) : Prop := text.head? ≠ some '\''

theorem startsUnquoted_nil : StartsUnquoted [] := by
  intro first
  cases first

private theorem readRest_closing {behind : List Char} (apart : StartsUnquoted behind) :
    readRest true behind = some ([], behind) := by
  cases behind with
  | nil => rfl
  | cons c rest =>
      have different : c ≠ '\'' := fun same => apart (congrArg some same)
      exact if_neg different

theorem readRest_escape (text : List Char) {behind : List Char} (apart : StartsUnquoted behind) :
    readRest false (escape text ++ '\'' :: behind) = some (text, behind) := by
  induction text with
  | nil => exact readRest_closing apart
  | cons c rest inductionHypothesis =>
      rw [escape]
      by_cases quote : c = '\''
      · rw [if_pos quote, quote]
        change (readRest false (escape rest ++ '\'' :: behind)).map
          (fun read => ('\'' :: read.1, read.2)) = _
        rw [inductionHypothesis]
        rfl
      · rw [if_neg quote, List.cons_append, readRest, if_neg quote, inductionHypothesis]
        rfl

theorem readAll_quote_escape (text : List Char) {behind : List Char}
    (apart : StartsUnquoted behind) :
    readAll (quote (escape text) ++ behind) = (readAll behind).map (text :: ·) := by
  have closed := readRest_escape text apart
  have same : quote (escape text) ++ behind = '\'' :: (escape text ++ '\'' :: behind) := by
    rw [quote, List.cons_append, List.append_assoc]
    rfl
  rw [same]
  exact readAll_closed closed

theorem escape_of_unquoted {text : List Char} (unquoted : '\'' ∉ text) : escape text = text := by
  induction text with
  | nil => rfl
  | cons c rest inductionHypothesis =>
      have different : c ≠ '\'' := fun same => unquoted (same ▸ List.mem_cons_self)
      rw [escape, if_neg different,
        inductionHypothesis fun member => unquoted (List.mem_cons_of_mem c member)]

theorem filter_escape (text : List Char) (keep : Char → Bool) (keepsQuotes : keep '\'' = true) :
    (escape text).filter keep = escape (text.filter keep) := by
  induction text with
  | nil => rfl
  | cons c rest inductionHypothesis =>
      rw [escape]
      by_cases isQuote : c = '\''
      · rw [if_pos isQuote, isQuote, List.filter_cons_of_pos keepsQuotes,
          List.filter_cons_of_pos keepsQuotes, List.filter_cons_of_pos keepsQuotes, escape,
          if_pos rfl, inductionHypothesis]
      · rw [if_neg isQuote]
        cases kept : keep c with
        | true =>
            rw [List.filter_cons_of_pos kept, List.filter_cons_of_pos kept, escape,
              if_neg isQuote, inductionHypothesis]
        | false =>
            rw [List.filter_cons_of_neg (Bool.eq_false_iff.mp kept),
              List.filter_cons_of_neg (Bool.eq_false_iff.mp kept), inductionHypothesis]

end RemoteQuery.Literal
