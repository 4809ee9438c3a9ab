import RemoteQuery.Proofs.Literal
set_option autoImplicit false

/-! Inside and outside of single quotes.  Every quote in a text turns the one into the
other.  A literal leaves the state as it found it, so a text has the same state behind a
place whether literals have been put for the placeholders before it or not. -/

namespace RemoteQuery

/-- Whether a place is inside quotes, where `inside` tells it of the place in front of the
text. -/
def quoteState (inside : Bool) : List Char → Bool
  | [] => inside
  | c :: rest => quoteState (if c = '\'' then !inside else inside) rest

def isInside (before : List Char) : Bool := quoteState false before

theorem quoteState_append (inside : Bool) (first second : List Char) :
    quoteState inside (first ++ second) = quoteState (quoteState inside first) second := by
  induction first generalizing inside with
  | nil => rfl
  | cons c rest inductionHypothesis =>
      rw [List.cons_append, quoteState, quoteState]
      exact inductionHypothesis _

theorem quoteState_quote (inside : Bool) (rest : List Char) :
    quoteState inside ('\'' :: rest) = quoteState (!inside) rest := by
  rw [quoteState, if_pos rfl]

theorem quoteState_other (inside : Bool) {c : Char} (rest : List Char) (different : c ≠ '\'') :
    quoteState inside (c :: rest) = quoteState inside rest := by
  rw [quoteState, if_neg different]

theorem quoteState_filter (inside : Bool) (text : List Char) (keep : Char → Bool)
    (quote : keep '\'' = true) :
    quoteState inside (text.filter keep) = quoteState inside text := by
  induction text generalizing inside with
  | nil => rfl
  | cons c rest inductionHypothesis =>
      cases kept : keep c with
      | true =>
          rw [List.filter_cons_of_pos kept, quoteState, quoteState]
          exact inductionHypothesis _
      | false =>
          have different : c ≠ '\'' := by
            intro same
            rw [same, quote] at kept
            cases kept
          rw [List.filter_cons_of_neg (Bool.eq_false_iff.mp kept),
            quoteState_other inside rest different]
          exact inductionHypothesis inside

namespace Literal

theorem Paired.quoteState_eq {text : List Char} (paired : Paired text) (inside : Bool) :
    quoteState inside text = inside := by
  induction paired with
  | nil => rfl
  | @other c rest different _ inductionHypothesis =>
      rw [quoteState_other inside rest different]
      exact inductionHypothesis
  | @pair rest _ inductionHypothesis =>
      rw [quoteState_quote, quoteState_quote, Bool.not_not]
      exact inductionHypothesis

theorem Paired.quoteState_before {text : List Char} (paired : Paired text) (inside : Bool)
    {first second : List Char} {c : Char} (split : text = first ++ c :: second)
    (different : c ≠ '\'') : quoteState inside first = inside := by
  induction paired generalizing first with
  | nil => cases first <;> cases split
  | @other head rest headDifferent _ inductionHypothesis =>
      cases first with
      | nil => rfl
      | cons same first =>
          obtain ⟨here, splitRest⟩ := List.cons.inj split
          rw [← here, quoteState_other inside first headDifferent]
          exact inductionHypothesis splitRest
  | @pair rest _ inductionHypothesis =>
      cases first with
      | nil => exact (different (List.cons.inj split).1.symm).elim
      | cons opening first =>
          obtain ⟨isOpening, splitRest⟩ := List.cons.inj split
          cases first with
          | nil => exact (different (List.cons.inj splitRest).1.symm).elim
          | cons closing first =>
              obtain ⟨isClosing, splitLast⟩ := List.cons.inj splitRest
              rw [← isOpening, ← isClosing, quoteState_quote, quoteState_quote, Bool.not_not]
              exact inductionHypothesis splitLast

theorem IsBare.unquoted {text : List Char} (bare : IsBare text) : '\'' ∉ text := by
  intro member
  have impossible := bare.chars '\'' member
  revert impossible
  decide

end Literal

namespace Binding

theorem literal_quoteState {policy : LiteralPolicy} {binding : Binding}
    (safe : binding.IsSafe policy) (inside : Bool) :
    quoteState inside (binding.literal policy) = inside := by
  rcases literal_form safe with bare | ⟨content, paired, same⟩
  · exact (Literal.paired_of_absent bare.unquoted).quoteState_eq inside
  · rw [same, Literal.quote, quoteState_quote, quoteState_append, paired.quoteState_eq,
      quoteState_quote, Bool.not_not]
    rfl

/-! ### Placeholders -/

def placeholders (sql : List Char) : Nat := sql.count placeholder

theorem placeholders_placeholder (sql : List Char) :
    placeholders (placeholder :: sql) = placeholders sql + 1 := List.count_cons_self

theorem placeholders_other {c : Char} (different : c ≠ placeholder) (sql : List Char) :
    placeholders (c :: sql) = placeholders sql := List.count_cons_of_ne different

theorem substitute_append (policy : LiteralPolicy) (first second : List Char)
    (bindings : List Binding) :
    substitute policy (first ++ second) bindings
      = substitute policy first bindings
        ++ substitute policy second (bindings.drop (placeholders first)) := by
  induction first generalizing bindings with
  | nil => cases bindings <;> cases second <;> rfl
  | cons c rest inductionHypothesis =>
      cases bindings with
      | nil =>
          rw [List.drop_nil]
          cases second <;> rfl
      | cons binding others =>
          rw [List.cons_append, substitute, substitute]
          by_cases found : c = placeholder
          · rw [if_pos found, if_pos found, inductionHypothesis others, found,
              placeholders_placeholder, List.drop_succ_cons, List.append_assoc]
          · rw [if_neg found, if_neg found, inductionHypothesis (binding :: others),
              placeholders_other found]
            rfl

theorem substitute_consumed (policy : LiteralPolicy) {before : List Char} (after : List Char)
    {bindings : List Binding} {binding : Binding}
    (consumed : bindings[placeholders before]? = some binding) :
    substitute policy (before ++ placeholder :: after) bindings
      = substitute policy before bindings ++ (binding.literal policy
        ++ substitute policy after (bindings.drop (placeholders before + 1))) := by
  obtain ⟨inside, same⟩ := List.getElem?_eq_some_iff.mp consumed
  rw [substitute_append, List.drop_eq_getElem_cons inside, same, substitute, if_pos rfl]

theorem substitute_kept (policy : LiteralPolicy) {before : List Char} {c : Char}
    (after : List Char) {bindings : List Binding}
    (kept : c = placeholder → bindings.length ≤ placeholders before) :
    substitute policy (before ++ c :: after) bindings
      = substitute policy before bindings
        ++ c :: substitute policy after (bindings.drop (placeholders before)) := by
  rw [substitute_append]
  cases left : bindings.drop (placeholders before) with
  | nil => cases after <;> rfl
  | cons binding others =>
      rw [substitute, if_neg]
      intro found
      have none := List.drop_eq_nil_iff.mpr (kept found)
      rw [left] at none
      cases none

def consumed (sql : List Char) (bindings : List Binding) : List Binding :=
  bindings.take (placeholders sql)

theorem consumed_other {c : Char} (rest : List Char) (bindings : List Binding)
    (other : c ≠ placeholder) : consumed (c :: rest) bindings = consumed rest bindings := by
  rw [consumed, placeholders_other other]
  rfl

theorem consumed_placeholder (rest : List Char) (binding : Binding) (others : List Binding) :
    consumed (placeholder :: rest) (binding :: others) = binding :: consumed rest others := by
  rw [consumed, placeholders_placeholder, List.take_succ_cons]
  rfl

theorem mem_consumed {before : List Char} (after : List Char) {bindings : List Binding}
    {binding : Binding} (found : bindings[placeholders before]? = some binding) :
    binding ∈ consumed (before ++ placeholder :: after) bindings := by
  have more : placeholders before < placeholders (before ++ placeholder :: after) := by
    rw [placeholders, placeholders, List.count_append, List.count_cons_self]
    omega
  apply List.mem_of_getElem?
  rw [consumed, List.getElem?_take_of_lt more]
  exact found

theorem consumed_append (first second : List Char) (bindings : List Binding) :
    ∀ binding, binding ∈ consumed first bindings →
      binding ∈ consumed (first ++ second) bindings := by
  intro binding member
  have more : placeholders first ≤ placeholders (first ++ second) := by
    rw [placeholders, placeholders, List.count_append]
    exact Nat.le_add_right _ _
  rw [consumed, ← Nat.min_eq_left more, ← List.take_take] at member
  exact List.mem_of_mem_take member

theorem substitute_quoteState {policy : LiteralPolicy} {sql : List Char}
    {bindings : List Binding}
    (safe : ∀ binding, binding ∈ consumed sql bindings → binding.IsSafe policy) (inside : Bool) :
    quoteState inside (substitute policy sql bindings) = quoteState inside sql := by
  induction sql generalizing bindings inside with
  | nil => cases bindings <;> rfl
  | cons c rest inductionHypothesis =>
      cases bindings with
      | nil => rfl
      | cons binding others =>
          rw [substitute]
          by_cases found : c = placeholder
          · rw [found, consumed_placeholder] at safe
            have notQuote : c ≠ '\'' := by
              rw [found]
              decide
            rw [if_pos found, quoteState_append,
              literal_quoteState (safe binding List.mem_cons_self),
              quoteState_other inside rest notQuote]
            exact inductionHypothesis
              (fun other member => safe other (List.mem_cons_of_mem _ member)) inside
          · rw [consumed_other rest _ found] at safe
            rw [if_neg found, quoteState, quoteState]
            exact inductionHypothesis safe _

end Binding

end RemoteQuery
