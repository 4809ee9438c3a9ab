import RemoteQuery.Proofs.Connection.Run
import RemoteQuery.Proofs.Connection.Trace
import RemoteQuery.Script
set_option autoImplicit false

/-! Cancellation over runs of steps.  A caller may cancel between two steps or while any
call is pending.  From then on a run makes at most one more call, a stop in the step that
was under way, and nothing that is asked for later is answered. -/

namespace RemoteQuery

/-! ### What occurs in a run -/

/-- A call that is made, or the caller cancelling between calls. -/
structure Occurrence where
  /-- The number of the step, counted from zero. -/
  step : Nat
  call? : Option Call
  cancels : Bool
  deriving Repr, DecidableEq

def Occurrence.made? (occurrence : Occurrence) : Option (Nat × Call) :=
  occurrence.call?.map fun call => (occurrence.step, call)

namespace Moment

variable {σ : Type}

def calls (moment : Moment σ) : List Call :=
  moment.after.world.calls.drop moment.before.world.calls.length

def occurrences (service : Service σ) (number : Nat) (moment : Moment σ) : List Occurrence :=
  match moment.step with
  | .cancel => [{ step := number, call? := none, cancels := true }]
  | _ => (service.marked moment.before.world.remote moment.calls).map fun item =>
      { step := number, call? := some item.1, cancels := item.2 }

end Moment

namespace Service

variable {σ : Type}

def occurrences (service : Service σ) : Nat → List (Moment σ) → List Occurrence
  | _, [] => []
  | number, moment :: rest =>
      moment.occurrences service number ++ service.occurrences (number + 1) rest

end Service

namespace Connection

variable {σ : Type}

/-- What cancelling means for a run of steps. -/
structure HeedsCancellation (connection : Connection) (service : Service σ) (steps : List Step)
    (session : Session σ) : Prop where
  /-- The caller counts as cancelled exactly when something that cancels has occurred. -/
  token : ∀ earlier moment later,
    connection.run service steps session = earlier ++ moment :: later →
    moment.before.world.cancelled
      = (session.world.cancelled
        || (service.occurrences 0 earlier).any Occurrence.cancels)
  /-- Behind anything that cancels at most a stop is called, and in the same step. -/
  behind : ∀ earlier occurrence later,
    service.occurrences 0 (connection.run service steps session)
      = earlier ++ occurrence :: later →
    occurrence.cancels = true →
    later.filterMap Occurrence.made? = [] ∨
      ∃ call executionId, occurrence.call? = some call ∧
        later.filterMap Occurrence.made? = [(occurrence.step, .stop executionId)]
  /-- A step that begins cancelled makes no call. -/
  idle : ∀ moment, moment ∈ connection.run service steps session →
    moment.before.world.cancelled = true → moment.calls = []
  /-- A request that begins cancelled is refused, unless the connection is pretending. -/
  refused : ∀ moment, moment ∈ connection.run service steps session →
    moment.before.world.cancelled = true → moment.before.pretending = false →
    ∀ mode request, moment.step = .query mode request →
      moment.result = .refused (connection.refusal request)
  /-- A request for rows that is cancelled before its download is refused without one. -/
  undownloaded : ∀ moment, moment ∈ connection.run service steps session →
    moment.before.pretending = false →
    ∀ mode request, moment.step = .query mode request → mode.downloads = true →
      (moment.before.world.cancelled = true ∨
        ∃ item, item ∈ service.marked moment.before.world.remote moment.calls ∧
          item.2 = true ∧ item.1.isDownload = false) →
      (∀ call, call ∈ moment.calls → call.isDownload = false) ∧
        ∃ failure, moment.result = .refused failure
  /-- Once the caller has cancelled no step is waited for without end. -/
  complete :
    (session.world.cancelled = true ∨
      ∃ occurrence, occurrence ∈ service.occurrences 0 (connection.run service steps session) ∧
        occurrence.cancels = true) →
    (connection.run service steps session).map Moment.step = steps
  /-- Where a step is waited for without end the caller never cancels meanwhile. -/
  endless : ∀ step before, connection.perform service step before = none →
    ∃ mode request statement executionId,
      step = .query mode request ∧ before.pretending = false ∧
      connection.prepare request = .ok statement ∧
      service.Accepted { statement := statement, context := connection.context } before.world
        executionId ∧
      service.Endless connection.pollPolicy
        { executionId := executionId
          interval := connection.pollPolicy.interval
          started := before.world.clock }
        (service.made (.start { statement := statement, context := connection.context })
          before.world)

variable {connection : Connection} {service : Service σ}

/-! ### One step -/

theorem call_answers_cancelled {α : Type} (connection : Connection) (service : Service σ)
    (pretended : α) (finish : Descriptor → World σ → Except QueryError α × World σ)
    (request : Request) (session : Session σ) (content : α → StepResult)
    (cancelled : session.world.cancelled = true) :
    ∃ result after,
      (connection.call service pretended finish request session).map
        (StepResult.ofAnswered content) = some (result, after) ∧
      after.world = session.world ∧
      (session.pretending = false → result = .refused (connection.refusal request)) := by
  cases pretending : session.pretending with
  | true =>
      rw [call, if_pos pretending]
      exact ⟨_, _, rfl, Session.note_world _ _ _, fun impossible => by cases impossible⟩
  | false =>
      obtain ⟨after, refused, same⟩ :=
        connection.call_of_cancelled service pretended finish request pretending cancelled
      rw [refused]
      exact ⟨_, after, rfl, same, fun _ => rfl⟩

theorem query_of_cancelled (connection : Connection) (service : Service σ) (mode : Mode)
    (request : Request) (session : Session σ) (cancelled : session.world.cancelled = true) :
    ∃ result after,
      connection.query service mode request session = some (result, after) ∧
      after.world = session.world ∧
      (session.pretending = false → result = .refused (connection.refusal request)) := by
  rcases connection.query_eq_call service mode request session with
    ⟨_, β, pretended, finish, content, _, same⟩ | ⟨_, content, same⟩
  · rw [same]
    exact connection.call_answers_cancelled service pretended finish request session content
      cancelled
  · rw [same]
    exact connection.call_answers_cancelled service .empty (connection.collect service) request
      session content cancelled

theorem perform_of_cancelled (connection : Connection) (service : Service σ) (step : Step)
    (session : Session σ) (cancelled : session.world.cancelled = true) :
    ∃ result after,
      connection.perform service step session = some (result, after) ∧
      after.world = session.world ∧
      ∀ mode request, step = .query mode request → session.pretending = false →
        result = .refused (connection.refusal request) := by
  cases step with
  | query mode request =>
      obtain ⟨result, after, came, same, refused⟩ :=
        connection.query_of_cancelled service mode request session cancelled
      refine ⟨result, after, came, same, ?_⟩
      intro _ _ asked serious
      cases asked
      exact refused serious
  | cancel =>
      have same : session.cancel.world = session.world := by
        rw [Session.cancel, ← cancelled]
      exact ⟨_, _, rfl, same, fun _ _ impossible => by cases impossible⟩
  | prepare request => exact ⟨_, _, rfl, rfl, fun _ _ impossible => by cases impossible⟩
  | setPretending value => exact ⟨_, _, rfl, rfl, fun _ _ impossible => by cases impossible⟩
  | enableLog => exact ⟨_, _, rfl, rfl, fun _ _ impossible => by cases impossible⟩
  | flushLog => exact ⟨_, _, rfl, rfl, fun _ _ impossible => by cases impossible⟩
  | readLog => exact ⟨_, _, rfl, rfl, fun _ _ impossible => by cases impossible⟩

/-- A step other than cancelling is a trace with at most a stop behind the call during
which the caller cancels. -/
theorem perform_traced {step : Step} {session after : Session σ} {result : StepResult}
    (other : step ≠ .cancel)
    (came : connection.perform service step session = some (result, after)) :
    ∃ calls, service.Traced calls session.world after.world ∧
      service.HaltsOnCancel session.world.remote calls := by
  cases live : session.world.cancelled with
  | true =>
      obtain ⟨_, _, expected, same, _⟩ :=
        connection.perform_of_cancelled service step session live
      cases came.symm.trans expected
      rw [same]
      exact ⟨[], .refl service _, trivial⟩
  | false =>
      cases step with
      | query mode request =>
          obtain ⟨executed, concluded, queried⟩ := query_queried live came
          exact ⟨_, queried.traced, queried.haltsOnCancel⟩
      | cancel => exact (other rfl).elim
      | prepare request => cases came; exact ⟨[], .refl service _, trivial⟩
      | setPretending value => cases came; exact ⟨[], .refl service _, trivial⟩
      | enableLog => cases came; exact ⟨[], .refl service _, trivial⟩
      | flushLog => cases came; exact ⟨[], .refl service _, trivial⟩
      | readLog => cases came; exact ⟨[], .refl service _, trivial⟩

namespace Took

variable {moment : Moment σ} {number : Nat}

private theorem occurrences_of_cancel (chosen : moment.step = .cancel) :
    moment.occurrences service number
      = [{ step := number, call? := none, cancels := true }] := by
  rw [Moment.occurrences, chosen]

private theorem occurrences_of_other (other : moment.step ≠ .cancel) {calls : List Call}
    (traced : service.Traced calls moment.before.world moment.after.world) :
    moment.occurrences service number
      = (service.marked moment.before.world.remote calls).map fun item =>
        { step := number, call? := some item.1, cancels := item.2 } := by
  rw [Moment.occurrences, Moment.calls, traced.drop_calls]
  cases chosen : moment.step with
  | cancel => exact (other chosen).elim
  | _ => rfl

theorem token (took : connection.Took service moment) (number : Nat) :
    moment.after.world.cancelled
      = (moment.before.world.cancelled
        || (moment.occurrences service number).any Occurrence.cancels) := by
  by_cases chosen : moment.step = .cancel
  · rw [Took, chosen] at took
    have after : moment.before.cancel = moment.after := congrArg Prod.snd (Option.some.inj took)
    rw [← after, occurrences_of_cancel chosen]
    exact (Bool.or_true _).symm
  · obtain ⟨calls, traced, _⟩ := perform_traced chosen took
    rw [occurrences_of_other chosen traced, List.any_map]
    exact traced.cancelled_eq

private theorem idle (took : connection.Took service moment)
    (cancelled : moment.before.world.cancelled = true) : moment.calls = [] := by
  obtain ⟨result, after, came, same, _⟩ :=
    connection.perform_of_cancelled service moment.step moment.before cancelled
  have sameAfter : moment.after = after := by
    have both := came.symm.trans took
    cases both
    rfl
  rw [Moment.calls, sameAfter, same, List.drop_length]

private theorem silent (took : connection.Took service moment)
    (cancelled : moment.before.world.cancelled = true) :
    (moment.occurrences service number).filterMap Occurrence.made? = [] := by
  rw [Moment.occurrences, took.idle cancelled]
  cases moment.step <;> rfl

private theorem refused (took : connection.Took service moment)
    (cancelled : moment.before.world.cancelled = true)
    (serious : moment.before.pretending = false) {mode : Mode} {request : Request}
    (asked : moment.step = .query mode request) :
    moment.result = .refused (connection.refusal request) := by
  obtain ⟨result, after, came, _, refused⟩ :=
    connection.perform_of_cancelled service moment.step moment.before cancelled
  have sameResult : moment.result = result := by
    have both := came.symm.trans took
    cases both
    rfl
  rw [sameResult]
  exact refused mode request asked serious

private theorem behind (took : connection.Took service moment) {earlier later : List Occurrence}
    {occurrence : Occurrence}
    (split : moment.occurrences service number = earlier ++ occurrence :: later)
    (cancels : occurrence.cancels = true) :
    later.filterMap Occurrence.made? = [] ∨
      ∃ call executionId, occurrence.call? = some call ∧
        later.filterMap Occurrence.made? = [(occurrence.step, .stop executionId)] := by
  by_cases chosen : moment.step = .cancel
  · rw [occurrences_of_cancel chosen] at split
    cases earlier with
    | nil =>
        obtain ⟨_, empty⟩ := List.cons.inj split
        rw [← empty]
        exact Or.inl rfl
    | cons first earlier => cases earlier <;> cases (List.cons.inj split).2
  · obtain ⟨calls, traced, halts⟩ := perform_traced chosen took
    rw [occurrences_of_other chosen traced] at split
    obtain ⟨before, rest, markedSplit, _, sameRest⟩ := List.map_eq_append_iff.mp split
    obtain ⟨⟨call, flag⟩, after, restSplit, sameItem, sameLater⟩ := List.map_eq_cons_iff.mp sameRest
    subst sameItem
    change flag = true at cancels
    subst cancels
    rw [restSplit] at markedSplit
    rw [← sameLater]
    rcases halts.behind markedSplit with none | ⟨executionId, single⟩
    · rw [none]
      exact Or.inl rfl
    · rw [single]
      exact Or.inr ⟨call, executionId, rfl, rfl⟩

private theorem undownloaded (took : connection.Took service moment)
    (serious : moment.before.pretending = false) {mode : Mode} {request : Request}
    (asked : moment.step = .query mode request) (rows : mode.downloads = true)
    (early : moment.before.world.cancelled = true ∨
      ∃ item, item ∈ service.marked moment.before.world.remote moment.calls ∧
        item.2 = true ∧ item.1.isDownload = false) :
    (∀ call, call ∈ moment.calls → call.isDownload = false) ∧
      ∃ failure, moment.result = .refused failure := by
  cases live : moment.before.world.cancelled with
  | true =>
      rw [took.idle live]
      exact ⟨fun call member => (List.not_mem_nil member).elim, _, took.refused live serious asked⟩
  | false =>
      obtain ⟨item, member, cancels, other⟩ : ∃ item,
          item ∈ service.marked moment.before.world.remote moment.calls ∧
            item.2 = true ∧ item.1.isDownload = false := by
        rcases early with cancelled | found
        · exact (Bool.false_ne_true (live.symm.trans cancelled)).elim
        · exact found
      rw [Took, asked] at took
      obtain ⟨executed, concluded, queried⟩ := query_queried live took
      rw [Moment.calls, queried.traced.drop_calls] at member ⊢
      have prevented := queried.prevented (by
        rw [Service.marked_append] at member
        rcases List.mem_append.mp member with here | behind
        · exact List.any_eq_true.mpr ⟨item, here, cancels⟩
        · rcases queried.once with none | ⟨objectPath, single⟩
          · rw [none] at behind
            cases behind
          · rw [single] at behind
            rw [List.mem_singleton.mp behind] at other
            cases other)
      refine ⟨?_, prevented.2 rows⟩
      rw [prevented.1, List.append_nil]
      exact queried.undownloaded

end Took

/-! ### A run of steps -/

theorem run_token (number : Nat) {steps : List Step} {session : Session σ}
    {earlier later : List (Moment σ)} {moment : Moment σ}
    (split : connection.run service steps session = earlier ++ moment :: later) :
    moment.before.world.cancelled
      = (session.world.cancelled
        || (service.occurrences number earlier).any Occurrence.cancels) := by
  revert number earlier
  refine connection.run_induction service
    (motive := fun _ session moments => ∀ number {earlier},
      moments = earlier ++ moment :: later →
      moment.before.world.cancelled
        = (session.world.cancelled
          || (service.occurrences number earlier).any Occurrence.cancels)) ?_ ?_ ?_ steps session
  · intro session number earlier split
    cases earlier <;> cases split
  · intro step rest session never number earlier split
    cases earlier <;> cases split
  · intro first rest took inductionHypothesis number earlier split
    cases earlier with
    | nil =>
        obtain ⟨same, _⟩ := List.cons.inj split
        rw [same]
        exact (Bool.or_false _).symm
    | cons head earlier =>
        obtain ⟨same, splitRest⟩ := List.cons.inj split
        rw [inductionHypothesis (number + 1) splitRest, took.token number, ← same,
          Service.occurrences, List.any_append, Bool.or_assoc]

theorem run_of_cancelled (connection : Connection) (service : Service σ) (number : Nat)
    (steps : List Step) (session : Session σ)
    (cancelled : session.world.cancelled = true) :
    (connection.run service steps session).map Moment.step = steps ∧
      (service.occurrences number (connection.run service steps session)).filterMap
        Occurrence.made? = [] := by
  revert number cancelled
  refine connection.run_induction service
    (motive := fun steps session moments => ∀ number, session.world.cancelled = true →
      moments.map Moment.step = steps ∧
        (service.occurrences number moments).filterMap Occurrence.made? = [])
    ?_ ?_ ?_ steps session
  · intro session number cancelled
    exact ⟨rfl, rfl⟩
  · intro step rest session never number cancelled
    obtain ⟨_, _, came, _⟩ := connection.perform_of_cancelled service step session cancelled
    rw [never] at came
    cases came
  · intro moment rest took inductionHypothesis number cancelled
    have still : moment.after.world.cancelled = true := by
      rw [took.token number, cancelled, Bool.true_or]
    obtain ⟨taken, silent⟩ := inductionHypothesis (number + 1) still
    constructor
    · rw [List.map_cons, taken]
    · rw [Service.occurrences, List.filterMap_append, took.silent cancelled, silent]
      rfl

/-- Behind anything that cancels in a run at most a stop is called, in the same step. -/
theorem run_behind (connection : Connection) (service : Service σ) (number : Nat)
    (steps : List Step) (session : Session σ)
    {earlier later : List Occurrence} {occurrence : Occurrence}
    (split : service.occurrences number (connection.run service steps session)
      = earlier ++ occurrence :: later)
    (cancels : occurrence.cancels = true) :
    later.filterMap Occurrence.made? = [] ∨
      ∃ call executionId, occurrence.call? = some call ∧
        later.filterMap Occurrence.made? = [(occurrence.step, .stop executionId)] := by
  revert number earlier
  refine connection.run_induction service
    (motive := fun _ _ moments => ∀ number earlier,
      service.occurrences number moments = earlier ++ occurrence :: later →
      later.filterMap Occurrence.made? = [] ∨
        ∃ call executionId, occurrence.call? = some call ∧
          later.filterMap Occurrence.made? = [(occurrence.step, .stop executionId)])
    ?_ ?_ ?_ steps session
  · intro session number earlier split
    cases earlier <;> cases split
  · intro step rest session never number earlier split
    cases earlier <;> cases split
  · intro moment rest took inductionHypothesis number earlier split
    rw [Service.occurrences] at split
    rcases List.append_eq_append_iff.mp split with
      ⟨front, _, splitRest⟩ | ⟨back, here, splitRest⟩
    · exact inductionHypothesis (number + 1) front splitRest
    · cases back with
      | nil => exact inductionHypothesis (number + 1) [] splitRest.symm
      | cons first back =>
          rw [List.cons_append] at splitRest
          obtain ⟨same, restSplit⟩ := List.cons.inj splitRest
          rw [← same] at here
          have still : moment.after.world.cancelled = true := by
            rw [took.token number, here, List.any_append, List.any_cons, cancels,
              Bool.true_or, Bool.or_true, Bool.or_true]
          have silent := (connection.run_of_cancelled service (number + 1) rest moment.after still).2
          rw [restSplit, List.filterMap_append, silent, List.append_nil]
          exact took.behind here cancels

theorem run_complete (connection : Connection) (service : Service σ) (number : Nat)
    (steps : List Step) (session : Session σ)
    (stopped : session.world.cancelled = true ∨
      ∃ occurrence,
        occurrence ∈ service.occurrences number (connection.run service steps session) ∧
          occurrence.cancels = true) :
    (connection.run service steps session).map Moment.step = steps := by
  revert number stopped
  refine connection.run_induction service
    (motive := fun steps session moments => ∀ number,
      (session.world.cancelled = true ∨
        ∃ occurrence, occurrence ∈ service.occurrences number moments ∧
          occurrence.cancels = true) →
      moments.map Moment.step = steps) ?_ ?_ ?_ steps session
  · intro session number stopped
    rfl
  · intro step rest session never number stopped
    rcases stopped with cancelled | ⟨occurrence, member, cancels⟩
    · obtain ⟨_, _, came, _⟩ := connection.perform_of_cancelled service step session cancelled
      rw [never] at came
      cases came
    · cases member
  · intro moment rest took inductionHypothesis number stopped
    rw [List.map_cons]
    refine congrArg _ (inductionHypothesis (number + 1) ?_)
    rcases stopped with cancelled | ⟨occurrence, member, cancels⟩
    · left
      rw [took.token number, cancelled, Bool.true_or]
    · rw [Service.occurrences] at member
      rcases List.mem_append.mp member with here | behind
      · left
        rw [took.token number, List.any_eq_true.mpr ⟨occurrence, here, cancels⟩,
          Bool.or_true]
      · exact Or.inr ⟨occurrence, behind, cancels⟩

theorem perform_endless {step : Step} {session : Session σ}
    (never : connection.perform service step session = none) :
    ∃ mode request statement,
      step = .query mode request ∧ session.pretending = false ∧
      connection.prepare request = .ok statement ∧
      service.execute connection.pollPolicy connection.context statement session.world
        = none := by
  cases step with
  | query mode request =>
      rw [perform] at never
      rcases connection.query_eq_call service mode request session with
        ⟨_, β, pretended, finish, content, _, same⟩ | ⟨_, content, same⟩
      · rw [same] at never
        obtain ⟨serious, statement, prepared, endless⟩ :=
          call_endless (Option.map_eq_none_iff.mp never)
        exact ⟨mode, request, statement, rfl, serious, prepared, endless⟩
      · rw [same] at never
        obtain ⟨serious, statement, prepared, endless⟩ :=
          call_endless (Option.map_eq_none_iff.mp never)
        exact ⟨mode, request, statement, rfl, serious, prepared, endless⟩
  | prepare request => cases never
  | setPretending value => cases never
  | enableLog => cases never
  | flushLog => cases never
  | readLog => cases never
  | cancel => cases never

/-- Every run of steps heeds the caller who cancels. -/
theorem run_heedsCancellation (connection : Connection) (service : Service σ)
    (steps : List Step) (session : Session σ) :
    connection.HeedsCancellation service steps session where
  token := fun _ _ _ split => run_token 0 split
  behind := fun _ _ _ split cancels => connection.run_behind service 0 steps session split cancels
  idle := fun _ member cancelled => (took_of_mem_run member).idle cancelled
  refused := fun _ member cancelled serious _ _ asked =>
    (took_of_mem_run member).refused cancelled serious asked
  undownloaded := fun _ member serious _ _ asked rows early =>
    (took_of_mem_run member).undownloaded serious asked rows early
  complete := fun stopped => connection.run_complete service 0 steps session stopped
  endless := by
    intro step before never
    obtain ⟨mode, request, statement, asked, serious, prepared, endless⟩ := perform_endless never
    obtain ⟨executionId, accepted, waits⟩ := Service.execute_endless endless
    exact ⟨mode, request, statement, executionId, asked, serious, prepared, accepted, waits⟩

def cancellingScript : Script :=
  { acknowledgement := "q", startFailure := none, cancelsOnStart := false
    polls := [{ cancels := true, failure := none, executionId := none, state := .running
                resultLocation := none, reason := none, statistics := none }]
    stopFailure := none, objects := [], reachesCaller := true }

def cancellingConnection : Connection :=
  { tablePrefix := "", literalPolicy := .escapeQuotes, context := default
    pollPolicy := {
      interval := nanosPerMilli, maxInterval := nanosPerMilli
      backoffFactor := Decimal.ofInt 1, timeout := none }
    folders := { outputFolder := "", stagingPath := "" } }

def cancellingSession : Session Script :=
  { world := {
      remote := cancellingScript, cancelled := false, clock := 0, calls := []
      staging := .fresh [] }
    pretending := false, logging := false, log := [] }

def cancellingRequest : Request :=
  { sql := "SELECT 1", bindings := [], limit := none, offset := none }

def cancelledSession : Session Script :=
  { cancellingSession with
    world := {
      remote := { cancellingScript with polls := [] }, cancelled := true, clock := 0
      calls := [.start { statement := "SELECT 1", context := default }, .poll "q" 0, .stop "q"]
      staging := .fresh [] } }

private theorem cancelling_run :
    cancellingConnection.run (Script.service "scripted")
        [.query .fetch cancellingRequest, .query .statement cancellingRequest] cancellingSession
      = [{ step := .query .fetch cancellingRequest
           before := cancellingSession
           result := .refused (.refused (.cancelled "q"))
           after := cancelledSession },
         { step := .query .statement cancellingRequest
           before := cancelledSession
           result := .refused (.refused (.cancelled "cancelled before submission"))
           after := cancelledSession }] := by
  have prepared : cancellingConnection.prepare cancellingRequest = .ok "SELECT 1" := rfl
  have ended : (Script.service "scripted").execute cancellingConnection.pollPolicy
      cancellingConnection.context "SELECT 1" cancellingSession.world
      = some (.error (.cancelled "q"), cancelledSession.world) := by
    have accepted : (Script.service "scripted").Accepted
        { statement := "SELECT 1", context := default } cancellingSession.world "q" :=
      ⟨rfl, rfl, by decide⟩
    exact (Service.execute_of_accepted "q" accepted).trans (Service.await_of_ended rfl)
  have fetched : cancellingConnection.perform (Script.service "scripted")
      (.query .fetch cancellingRequest) cancellingSession
      = some (.refused (.refused (.cancelled "q")), cancelledSession) := by
    rw [perform, query, fetch, call_of_prepared rfl prepared, ended]
    rfl
  have refused : cancellingConnection.perform (Script.service "scripted")
      (.query .statement cancellingRequest) cancelledSession
      = some (.refused (.refused (.cancelled "cancelled before submission")),
          cancelledSession) := by
    rw [perform, query, statement, call_of_prepared rfl prepared, Service.execute_of_cancelled rfl]
    rfl
  rw [cancellingConnection.run_cons _ fetched, cancellingConnection.run_cons _ refused]
  rfl

theorem run_heedsCancellation_poll :
    (Script.service "scripted").occurrences 0
        (cancellingConnection.run (Script.service "scripted")
          [.query .fetch cancellingRequest, .query .statement cancellingRequest]
          cancellingSession)
      = [{ step := 0, call? := some (.start { statement := "SELECT 1", context := default })
           cancels := false }]
        ++ { step := 0, call? := some (.poll "q" 0), cancels := true }
          :: [{ step := 0, call? := some (.stop "q"), cancels := false }] ∧
    cancellingConnection.HeedsCancellation (Script.service "scripted")
      [.query .fetch cancellingRequest, .query .statement cancellingRequest] cancellingSession := by
  refine ⟨?_, cancellingConnection.run_heedsCancellation _ _ _⟩
  rw [cancelling_run]
  rfl

end Connection

end RemoteQuery
