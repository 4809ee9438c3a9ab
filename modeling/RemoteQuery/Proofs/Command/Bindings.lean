import RemoteQuery.Command.Arguments
set_option autoImplicit false

/-! Bindings among the arguments of the command.  Each of them is one argument, they are
bound in their order, and no other argument is read differently because of them. -/

namespace RemoteQuery.Command

def bindArgument (value : String) : String := "--bind=" ++ value

def Invocation.behind (front : List String) (invocation : Invocation) : Invocation :=
  { invocation with bindings := front ++ invocation.bindings }

def Order.behind (front : List String) : Order → Order
  | .run invocation => .run (invocation.behind front)
  | order => order

private theorem ofArgument_bindArgument (value : String) :
    Shape.ofArgument (bindArgument value) = .long "bind" (some value) := by
  have letters : (bindArgument value).toList = "--bind=".toList ++ value.toList :=
    String.toList_append
  have shape : Shape.ofArgument (bindArgument value)
      = .long (String.ofList "bind".toList) (some (String.ofList value.toList)) := by
    rw [Shape.ofArgument, letters]
    rfl
  rw [shape, String.ofList_toList, String.ofList_toList]

namespace Draft

variable (front : List String)

def behind (draft : Draft) : Draft := { draft with bindings := front ++ draft.bindings }

private theorem read_bindArgument (draft : Draft) (value : String) (rest : List String) :
    draft.read (bindArgument value :: rest)
      = Draft.read { draft with bindings := draft.bindings ++ [value] } rest := by
  have known : ValueOption.ofName? "bind" = some .bind := by decide
  rw [read, ofArgument_bindArgument]
  simp only [known, Option.bind_some, addValue]

private theorem read_bindArguments (draft : Draft) (values rest : List String) :
    draft.read (values.map bindArgument ++ rest)
      = Draft.read { draft with bindings := draft.bindings ++ values } rest := by
  induction values generalizing draft with
  | nil => rw [List.map_nil, List.nil_append, List.append_nil]
  | cons value values inductionHypothesis =>
      rw [List.map_cons, List.cons_append, read_bindArgument, inductionHypothesis,
        List.append_assoc]
      rfl

/-! ### Other arguments -/

private theorem finish_behind (draft : Draft) :
    (draft.behind front).finish = draft.finish.behind front := by
  cases known : draft.sql <;> simp [finish, behind, known, Order.behind, Invocation.behind]

private theorem addStatement_behind (draft : Draft) (argument : String) :
    (draft.behind front).addStatement argument
      = (draft.addStatement argument).map (behind front) := by
  cases known : draft.sql <;> simp [addStatement, behind, known]

private theorem addValue_behind (draft : Draft) (option : ValueOption) (value : String) :
    (draft.behind front).addValue option value
      = (draft.addValue option value).map (behind front) := by
  cases option with
  | bind => simp [addValue, behind]
  | mode =>
      by_cases given : draft.mode.isSome = true
      · simp [addValue, behind, given]
      · cases known : Mode.ofName? value <;> simp [addValue, behind, given, known]
  | limit =>
      by_cases given : draft.limit.isSome = true
      · simp [addValue, behind, given]
      · cases known : Decimal.readCount? value <;> simp [addValue, behind, given, known]
  | offset =>
      by_cases given : draft.offset.isSome = true
      · simp [addValue, behind, given]
      · cases known : Decimal.readCount? value <;> simp [addValue, behind, given, known]

private theorem addNamed_behind (draft : Draft) (name value : String) :
    ((ValueOption.ofName? name).bind fun option => (draft.behind front).addValue option value)
      = ((ValueOption.ofName? name).bind fun option => draft.addValue option value).map
        (behind front) := by
  cases ValueOption.ofName? name with
  | none => rfl
  | some option => exact addValue_behind front draft option value

private theorem readPlain_behind (draft : Draft) (arguments : List String) :
    (draft.behind front).readPlain arguments = (draft.readPlain arguments).behind front := by
  induction arguments generalizing draft with
  | nil => exact finish_behind front draft
  | cons argument rest inductionHypothesis =>
      rw [readPlain, readPlain, addStatement_behind]
      cases draft.addStatement argument with
      | none => rfl
      | some longer => exact inductionHypothesis longer

theorem read_behind (draft : Draft) (arguments : List String) :
    (draft.behind front).read arguments = (draft.read arguments).behind front := by
  have dryRun (draft : Draft) : (draft.behind front).dryRun = draft.dryRun := rfl
  have showSql (draft : Draft) : (draft.behind front).showSql = draft.showSql := rfl
  fun_induction read draft arguments
  all_goals simp only [read, addNamed_behind, addStatement_behind, readPlain_behind,
    finish_behind, if_true, if_false, Bool.false_eq_true, *]
  all_goals first | rfl | assumption

end Draft

/-- Bindings in front of any other arguments come to the same order with these bindings. -/
theorem ofArguments_bound (values arguments : List String) :
    Order.ofArguments (values.map bindArgument ++ arguments)
      = (Order.ofArguments arguments).behind values := by
  have bound : Draft.empty.behind values
      = { Draft.empty with bindings := Draft.empty.bindings ++ values } := by
    rw [Draft.behind, Draft.empty, List.append_nil, List.nil_append]
  rw [Order.ofArguments, Draft.read_bindArguments, Order.ofArguments, ← Draft.read_behind, bound]

end RemoteQuery.Command
