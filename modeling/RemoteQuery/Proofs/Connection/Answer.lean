import RemoteQuery.Proofs.Execution.Trace
import RemoteQuery.Step
set_option autoImplicit false

/-! The ways in which a request is answered.  Every mode is one call that differs from
the others in what it does with an execution that has succeeded, and only two of them go
on to download anything. -/

namespace RemoteQuery

def Mode.downloads : Mode → Bool
  | .select | .fetch => true
  | .statement | .exportPath => false

namespace Session

variable {σ : Type}

@[simp] theorem note_world (session : Session σ) (query : String) (pretended : Bool) :
    (session.note query pretended).world = session.world := by
  rw [note]
  split <;> rfl

@[simp] theorem note_pretending (session : Session σ) (query : String) (pretended : Bool) :
    (session.note query pretended).pretending = session.pretending := by
  rw [note]
  split <;> rfl

@[simp] theorem note_logging (session : Session σ) (query : String) (pretended : Bool) :
    (session.note query pretended).logging = session.logging := by
  rw [note]
  split <;> rfl

theorem note_log (session : Session σ) (query : String) (pretended : Bool) :
    (session.note query pretended).log
      = if session.logging then session.log ++ [{ query := query, pretended := pretended }]
        else session.log := by
  rw [note]
  split <;> rfl

end Session

namespace Connection

variable {σ α : Type}

/-- Why a caller who has cancelled gets no answer to a request. -/
def refusal (connection : Connection) (request : Request) : Statement.Failure :=
  match connection.prepare request with
  | .error failure => failure
  | .ok _ => .refused (.cancelled "cancelled before submission")

/-- The ways in which a request is answered. -/
inductive Answered (connection : Connection) (service : Service σ) (pretended : α)
    (finish : Descriptor → World σ → Except QueryError α × World σ) (request : Request)
    (session : Session σ) : CallResult α × Session σ → Prop where
  | pretended (pretending : session.pretending = true) :
      Answered connection service pretended finish request session
        (.ok pretended, session.note request.sql true)
  | unprepared (serious : session.pretending = false) (failure : Statement.Failure)
      (failed : connection.prepare request = .error failure) (after : Session σ)
      (same : after.world = session.world) :
      Answered connection service pretended finish request session (.error failure, after)
  | failed (serious : session.pretending = false) (statement : String)
      (prepared : connection.prepare request = .ok statement) (error : QueryError)
      (world : World σ)
      (ended : service.execute connection.pollPolicy connection.context statement session.world
        = some (.error error, world)) :
      Answered connection service pretended finish request session
        (.error (.refused error), { session with world := world }.note statement false)
  | concluded (serious : session.pretending = false) (statement : String)
      (prepared : connection.prepare request = .ok statement) (descriptor : Descriptor)
      (world : World σ)
      (ended : service.execute connection.pollPolicy connection.context statement session.world
        = some (.ok descriptor, world)) :
      Answered connection service pretended finish request session
        (CallResult.ofResult (finish descriptor world).1,
          { session with world := (finish descriptor world).2 }.note statement false)

variable {connection : Connection} {service : Service σ} {pretended : α}
  {finish : Descriptor → World σ → Except QueryError α × World σ} {request : Request}
  {session : Session σ}

theorem call_of_prepared {statement : String} (serious : session.pretending = false)
    (prepared : connection.prepare request = .ok statement) :
    connection.call service pretended finish request session
      = (service.execute connection.pollPolicy connection.context statement session.world).map
        fun executed =>
          (CallResult.ofResult (conclude finish executed).1,
            { session with world := (conclude finish executed).2 }.note statement false) := by
  rw [call, if_neg (Bool.eq_false_iff.mp serious), prepared]

theorem call_of_unprepared (connection : Connection) (service : Service σ) (pretended : α)
    (finish : Descriptor → World σ → Except QueryError α × World σ)
    {failure : Statement.Failure} (serious : session.pretending = false)
    (failed : connection.prepare request = .error failure) :
    ∃ after, connection.call service pretended finish request session
      = some (.error failure, after) ∧ after.world = session.world := by
  rw [call, if_neg (Bool.eq_false_iff.mp serious), failed]
  cases failure with
  | overflow overflow => exact ⟨session, rfl, rfl⟩
  | refused error => exact ⟨_, rfl, session.note_world request.sql false⟩

theorem call_answered {answered : CallResult α × Session σ}
    (came : connection.call service pretended finish request session = some answered) :
    connection.Answered service pretended finish request session answered := by
  cases pretending : session.pretending with
  | true =>
      rw [call, if_pos pretending] at came
      cases came
      exact .pretended pretending
  | false =>
      cases prepared : connection.prepare request with
      | error failure =>
          obtain ⟨after, refused, same⟩ := connection.call_of_unprepared service pretended finish
            pretending prepared
          cases came.symm.trans refused
          exact .unprepared pretending failure prepared after same
      | ok statement =>
          rw [call_of_prepared pretending prepared] at came
          obtain ⟨executed, ended, same⟩ := Option.map_eq_some_iff.mp came
          obtain ⟨result, world⟩ := executed
          rw [← same]
          cases result with
          | error error => exact .failed pretending statement prepared error world ended
          | ok descriptor => exact .concluded pretending statement prepared descriptor world ended

/-- A caller who has cancelled is refused, unless the connection is pretending. -/
theorem call_of_cancelled (connection : Connection) (service : Service σ) (pretended : α)
    (finish : Descriptor → World σ → Except QueryError α × World σ) (request : Request)
    (serious : session.pretending = false)
    (cancelled : session.world.cancelled = true) :
    ∃ after, connection.call service pretended finish request session
      = some (.error (connection.refusal request), after) ∧ after.world = session.world := by
  rw [refusal]
  cases prepared : connection.prepare request with
  | error failure => exact call_of_unprepared _ _ _ _ serious prepared
  | ok statement =>
      have ended : service.execute connection.pollPolicy connection.context statement
          session.world = some (.error (.cancelled "cancelled before submission"), session.world) :=
        Service.execute_of_cancelled cancelled
      rw [call_of_prepared serious prepared, ended]
      exact ⟨_, rfl, Session.note_world _ _ _⟩

theorem call_endless
    (never : connection.call service pretended finish request session = none) :
    session.pretending = false ∧ ∃ statement, connection.prepare request = .ok statement ∧
      service.execute connection.pollPolicy connection.context statement session.world
        = none := by
  cases pretending : session.pretending with
  | true =>
      rw [call, if_pos pretending] at never
      cases never
  | false =>
      cases prepared : connection.prepare request with
      | error failure =>
          obtain ⟨after, refused, _⟩ := connection.call_of_unprepared service pretended finish
            pretending prepared
          rw [refused] at never
          cases never
      | ok statement =>
          rw [call_of_prepared pretending prepared] at never
          exact ⟨rfl, statement, rfl, Option.map_eq_none_iff.mp never⟩

/-- A mode that downloads nothing leaves the world as the execution left it; the others
collect rows, and differ in how much of them they tell. -/
theorem query_eq_call (connection : Connection) (service : Service σ) (mode : Mode)
    (request : Request) (session : Session σ) :
    (mode.downloads = false ∧
      ∃ (β : Type) (pretended : β)
        (finish : Descriptor → World σ → Except QueryError β × World σ)
        (content : β → StepResult),
        (∀ descriptor world, (finish descriptor world).2 = world) ∧
        connection.query service mode request session
          = (connection.call service pretended finish request session).map
            (StepResult.ofAnswered content)) ∨
    (mode.downloads = true ∧
      ∃ content : QueryOutput → StepResult,
        connection.query service mode request session
          = (connection.call service .empty (connection.collect service) request session).map
            (StepResult.ofAnswered content)) := by
  cases mode with
  | statement => exact Or.inl ⟨rfl, Bool, true, _, .flag, fun _ _ => rfl, rfl⟩
  | exportPath => exact Or.inl ⟨rfl, String, "", connection.locate, .text, fun _ _ => rfl, rfl⟩
  | fetch => exact Or.inr ⟨rfl, .output, rfl⟩
  | select =>
      refine Or.inr ⟨rfl, fun output => .records output.rows, ?_⟩
      rw [query, select, fetch, Option.map_map]
      refine congrArg (Option.map · _) (funext fun answered => ?_)
      obtain ⟨result, after⟩ := answered
      cases result with
      | error failure => rfl
      | ok output => rfl

end Connection

end RemoteQuery
