import RemoteQuery.Proofs.Command.Bindings
import RemoteQuery.Proofs.Literal.Numeral
import RemoteQuery.Proofs.Statement.Quotes
set_option autoImplicit false

/-! Bindings that are no texts.  The command has only texts to bind, since every argument
is one.  Whole numbers, finite numbers and truth values lose nothing by that: the text of
such a binding reads as a number, so that it stands bare as the binding itself does. -/

namespace RemoteQuery

namespace Binding

def written (policy : LiteralPolicy) (binding : Binding) : String :=
  String.ofList (binding.literal policy)

/-- That text as a binding of its own. -/
def asText (policy : LiteralPolicy) (binding : Binding) : Binding :=
  text (binding.written policy)

private theorem literal_asText {binding : Binding} (typed : binding.isTyped = true)
    (policy other : LiteralPolicy) :
    (binding.asText other).literal policy = binding.literal policy := by
  have numeric := isNumeric_literal typed other
  obtain ⟨sign, size, _, same⟩ := literal_of_isTyped typed
  rw [asText, written, literal_of_isNumeric, String.toList_ofList, same, same]
  rw [String.toList_ofList]
  exact numeric

/-! ### Lists of bindings -/

/-- All that a statement takes of its bindings is their literals. -/
theorem substitute_of_literals {policy : LiteralPolicy} {bindings others : List Binding}
    (alike : bindings.map (literal policy) = others.map (literal policy)) (sql : List Char) :
    substitute policy sql bindings = substitute policy sql others := by
  induction sql generalizing bindings others with
  | nil => cases bindings <;> cases others <;> rfl
  | cons c rest inductionHypothesis =>
      cases bindings with
      | nil =>
          rw [List.map_nil, eq_comm, List.map_eq_nil_iff] at alike
          rw [alike]
      | cons binding bindings =>
          cases others with
          | nil => cases alike
          | cons other others =>
              have ⟨first, behind⟩ := List.cons.inj alike
              rw [substitute, substitute, first, inductionHypothesis behind,
                inductionHypothesis alike]

private theorem literals_asText {bindings : List Binding}
    (typed : ∀ binding, binding ∈ bindings → binding.isTyped = true) (policy other : LiteralPolicy) :
    (bindings.map (asText other)).map (literal policy) = bindings.map (literal policy) := by
  rw [List.map_map]
  apply List.map_congr_left
  intro binding member
  exact literal_asText (typed binding member) policy other

end Binding

namespace Statement

theorem prepare_of_literals (tablePrefix : String) {policy : LiteralPolicy} (request : Request)
    {others : List Binding}
    (alike : others.map (Binding.literal policy) = request.bindings.map (Binding.literal policy)) :
    prepare tablePrefix policy { request with bindings := others }
      = prepare tablePrefix policy request := by
  have sameText : (compile tablePrefix { request with bindings := others }).sql
      = (compile tablePrefix request).sql := by
    simp only [compile]
    cases compileLimit request.limit request.offset <;> rfl
  have sameWindow : (compile tablePrefix { request with bindings := others }).window
      = (compile tablePrefix request).window := by
    simp only [compile]
    cases compileLimit request.limit request.offset <;> rfl
  rw [prepare, prepare, sameText, sameWindow, compile_bindings, compile_bindings,
    Binding.substitute_of_literals alike]

end Statement

namespace Binding

/-- What bindings have in common with their texts.  The texts may be written under either
policy, and either policy may hold where they are bound. -/
structure BindAlike (bindings : List Binding) : Prop where
  numeric : ∀ binding, binding ∈ bindings → ∀ policy,
    Literal.isNumeric (binding.literal policy) = true
  bare : ∀ binding, binding ∈ bindings → ∀ policy other,
    (binding.asText other).literal policy = binding.literal policy
  substituted : ∀ policy other sql,
    substitute policy sql (bindings.map (asText other)) = substitute policy sql bindings
  /-- Arguments that bind the texts come to the same order as without them, but for the
  texts, which are bound first. -/
  commanded : ∀ other arguments invocation,
    Command.Order.ofArguments arguments = .run invocation →
    Command.Order.ofArguments
        ((bindings.map (written other)).map Command.bindArgument ++ arguments)
      = .run (invocation.behind (bindings.map (written other)))
  prepared : ∀ (connection : Connection) other (invocation : Command.Invocation),
    connection.prepare (invocation.behind (bindings.map (written other))).request
      = connection.prepare { invocation.request with
          bindings := bindings ++ invocation.request.bindings }

/-- Numbers and truth values make the same statement as their texts. -/
theorem typed_bindAlike (bindings : List Binding)
    (typed : ∀ binding, binding ∈ bindings → binding.isTyped = true) : BindAlike bindings where
  numeric := fun binding member => isNumeric_literal (typed binding member)
  bare := fun binding member => literal_asText (typed binding member)
  substituted := fun policy other sql =>
    substitute_of_literals (literals_asText typed policy other) sql
  commanded := by
    intro other arguments invocation reads
    rw [Command.ofArguments_bound, reads]
    rfl
  prepared := by
    intro connection other invocation
    have texts := literals_asText typed connection.literalPolicy other
    apply Statement.prepare_of_literals connection.tablePrefix { invocation.request with
      bindings := bindings ++ invocation.request.bindings }
    simp only [Command.Invocation.request, Command.Invocation.behind, List.map_append, ← texts,
      List.map_map]
    rfl

theorem typed_bindAlike_extremes :
    BindAlike [integer Int64.minValue, real (Float.ofBits 0x8000000000000000), flag true] ∧
      substitute .verbatim "?, ?, ?".toList
          [integer Int64.minValue, real (Float.ofBits 0x8000000000000000), flag true]
        = "-9223372036854775808, -0, 1".toList :=
  ⟨typed_bindAlike _ (by decide), by decide⟩

end Binding

end RemoteQuery
