import RemoteQuery.Proofs.Literal.Segments
import RemoteQuery.Proofs.Quotes
set_option autoImplicit false

/-! Bindings by position.  The first binding is put behind the first segment of a
statement, the second one behind the second, and so on as far as both go.  What a literal
contains makes no difference to where the next one is put, so a statement may be cut
wherever all of its placeholders so far have their bindings. -/

namespace RemoteQuery.Binding

/-- A text cut at all of its placeholders: the segment in front of them, and the ones
behind each. -/
structure Segmented (sql first : List Char) (others : List (List Char)) : Prop where
  text : sql = first ++ others.flatMap fun segment => placeholder :: segment
  unplaced : ∀ segment, segment ∈ first :: others → placeholder ∉ segment

/-- Where the literals of bindings are put. -/
structure SubstitutesByPosition (policy : LiteralPolicy) : Prop where
  /-- Every text can be cut at its placeholders. -/
  cut : ∀ sql, ∃ first others, Segmented sql first others
  /-- A literal stands for each placeholder that has a binding.  The other placeholders
  stay, and the other bindings are ignored. -/
  placed : ∀ sql first others bindings, Segmented sql first others →
    substitute policy sql bindings
      = first
        ++ (List.zipWith (fun binding segment => literal policy binding ++ segment)
            bindings others).flatten
        ++ (others.drop bindings.length).flatMap fun segment => placeholder :: segment
  /-- A part with as many placeholders as bindings can be taken by itself. -/
  parted : ∀ sql later bindings further, sql.count placeholder = bindings.length →
    substitute policy (sql ++ later) (bindings ++ further)
      = substitute policy sql bindings ++ substitute policy later further

private theorem exists_segmented (sql : List Char) :
    ∃ first others, Segmented sql first others := by
  induction sql with
  | nil =>
      refine ⟨[], [], rfl, ?_⟩
      intro segment member
      rw [List.mem_singleton.mp member]
      exact List.not_mem_nil
  | cons c rest inductionHypothesis =>
      obtain ⟨first, others, text, unplaced⟩ := inductionHypothesis
      by_cases found : c = placeholder
      · refine ⟨[], first :: others, ?_, ?_⟩
        · rw [found, text]
          rfl
        · intro segment member
          rcases List.mem_cons.mp member with here | behind
          · rw [here]
            exact List.not_mem_nil
          · exact unplaced segment behind
      · refine ⟨c :: first, others, ?_, ?_⟩
        · rw [text]
          rfl
        · intro segment member
          rcases List.mem_cons.mp member with here | behind
          · rw [here]
            rintro (_ | ⟨_, inside⟩)
            · exact found rfl
            · exact unplaced first List.mem_cons_self inside
          · exact unplaced segment (List.mem_cons_of_mem first behind)

theorem substitute_behind (policy : LiteralPolicy) {first : List Char}
    (unplaced : placeholder ∉ first) (rest : List Char) (bindings : List Binding) :
    substitute policy (first ++ rest) bindings = first ++ substitute policy rest bindings := by
  have unmarked : placeholders first = 0 := List.count_eq_zero_of_not_mem unplaced
  rw [substitute_append, substitute_of_absent policy unplaced, unmarked, List.drop_zero]

theorem Segmented.substitute_eq {sql first : List Char} {others : List (List Char)}
    (segmented : Segmented sql first others) (policy : LiteralPolicy) (bindings : List Binding) :
    substitute policy sql bindings
      = first
        ++ (List.zipWith (fun binding segment => literal policy binding ++ segment)
            bindings others).flatten
        ++ (others.drop bindings.length).flatMap fun segment => placeholder :: segment := by
  induction others generalizing sql first bindings with
  | nil =>
      rw [segmented.text, substitute_behind policy (segmented.unplaced first List.mem_cons_self),
        List.zipWith_nil_right, List.drop_nil, List.flatMap_nil, List.flatten_nil, List.append_nil,
        substitute_of_absent policy List.not_mem_nil]
  | cons segment others inductionHypothesis =>
      have behind : Segmented (segment ++ others.flatMap fun segment => placeholder :: segment)
          segment others :=
        ⟨rfl, fun other member => segmented.unplaced other (List.mem_cons_of_mem first member)⟩
      rw [segmented.text, substitute_behind policy (segmented.unplaced first List.mem_cons_self)]
      cases bindings with
      | nil =>
          rw [substitute, List.zipWith_nil_left, List.flatten_nil, List.append_nil]
          rfl
      | cons binding bindings =>
          rw [List.flatMap_cons, List.cons_append, substitute, if_pos rfl,
            inductionHypothesis behind bindings, List.zipWith_cons_cons, List.flatten_cons,
            List.length_cons, List.drop_succ_cons]
          simp only [List.append_assoc]

theorem substitute_surplus (policy : LiteralPolicy) {sql : List Char} {bindings : List Binding}
    (enough : sql.count placeholder = bindings.length) (further : List Binding) :
    substitute policy sql (bindings ++ further) = substitute policy sql bindings := by
  induction sql generalizing bindings with
  | nil =>
      cases List.length_eq_zero_iff.mp enough.symm
      rw [substitute_of_absent policy List.not_mem_nil, substitute_of_absent policy List.not_mem_nil]
  | cons c rest inductionHypothesis =>
      by_cases found : c = placeholder
      · rw [found, List.count_cons_self] at enough
        cases bindings with
        | nil => cases enough
        | cons binding bindings =>
            rw [List.cons_append, substitute, substitute, if_pos found, if_pos found,
              inductionHypothesis (Nat.succ.inj enough)]
      · rw [List.count_cons_of_ne found] at enough
        have onward := inductionHypothesis enough
        have kept (bound : List Binding) :
            substitute policy (c :: rest) bound = c :: substitute policy rest bound :=
          substitute_behind policy (mt List.mem_singleton.mp (Ne.symm found)) rest bound
        rw [kept, kept, onward]

/-- Bindings are put by position, whatever texts they are and whatever is done with quotes
in them. -/
theorem substitute_positional (policy : LiteralPolicy) : SubstitutesByPosition policy where
  cut := exists_segmented
  placed := fun _ _ _ bindings segmented => segmented.substitute_eq policy bindings
  parted := by
    intro sql later bindings further enough
    rw [substitute_append, substitute_surplus policy enough,
      show placeholders sql = bindings.length from enough, List.drop_left]

/-- A placeholder in a literal is no placeholder, and one without a binding stays. -/
example : substitute .verbatim "a ? b ? c ?".toList [.text "?", .integer 1]
    = "a '?' b 1 c ?".toList := by decide

end RemoteQuery.Binding
