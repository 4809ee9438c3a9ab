import RemoteQuery.Literal
import RemoteQuery.Text.Search
set_option autoImplicit false

/-! Literals between the segments of a statement.  The placeholders cut a statement into
segments.  Putting literals for placeholders from left to right comes to the segments with
the literals between them, so that a literal is never looked at again. -/

namespace RemoteQuery.Binding

/-- Segments with the literals of bindings between them, in their order, and placeholders
where no binding is left. -/
def interleaved (policy : LiteralPolicy) : List (List Char) → List Binding → List Char
  | [], _ => []
  | [segment], _ => segment
  | segment :: next :: others, [] =>
      segment ++ placeholder :: interleaved policy (next :: others) []
  | segment :: next :: others, binding :: bindings =>
      segment ++ (binding.literal policy ++ interleaved policy (next :: others) bindings)

private theorem interleaved_cons (policy : LiteralPolicy) (c : Char) (segment : List Char)
    (others : List (List Char)) (bindings : List Binding) :
    interleaved policy ((c :: segment) :: others) bindings
      = c :: interleaved policy (segment :: others) bindings := by
  cases others with
  | nil => rfl
  | cons next others => cases bindings <;> rfl

theorem substitute_eq_interleaved (policy : LiteralPolicy) (sql : List Char)
    (bindings : List Binding) :
    substitute policy sql bindings
      = interleaved policy (Text.splitAt placeholder sql) bindings := by
  induction sql generalizing bindings with
  | nil => cases bindings <;> rfl
  | cons c rest inductionHypothesis =>
      obtain ⟨first, others, pieces⟩ :=
        List.exists_cons_of_ne_nil (Text.splitAt_ne_nil placeholder rest)
      rw [pieces] at inductionHypothesis
      by_cases found : c = placeholder
      · have cut : Text.splitAt placeholder (c :: rest) = [] :: first :: others := by
          rw [Text.splitAt, if_pos found, pieces]
        rw [cut]
        cases bindings with
        | nil =>
            have onward := inductionHypothesis []
            rw [substitute] at onward ⊢
            rw [interleaved, List.nil_append, ← onward, found]
        | cons binding bindings =>
            rw [substitute, if_pos found, inductionHypothesis bindings]
            rfl
      · have cut : Text.splitAt placeholder (c :: rest) = (c :: first) :: others := by
          rw [Text.splitAt, if_neg found, pieces]
        rw [cut, interleaved_cons, ← inductionHypothesis bindings]
        cases bindings with
        | nil => rw [substitute, substitute]
        | cons binding bindings => rw [substitute, if_neg found]

/-- A text without placeholders stays as it is, whatever is bound. -/
theorem substitute_of_absent (policy : LiteralPolicy) {sql : List Char}
    (absent : placeholder ∉ sql) (bindings : List Binding) :
    substitute policy sql bindings = sql := by
  induction sql with
  | nil => cases bindings <;> rfl
  | cons c rest inductionHypothesis =>
      have other : c ≠ placeholder := fun same => absent (same ▸ List.mem_cons_self)
      have onward := inductionHypothesis (fun member => absent (List.mem_cons_of_mem c member))
      cases bindings with
      | nil => rw [substitute]
      | cons binding bindings => rw [substitute, if_neg other, onward]

end RemoteQuery.Binding
