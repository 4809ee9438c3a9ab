import RemoteQuery.Step
set_option autoImplicit false

/-! Runs of steps.  A run is a list of moments, each of them a step that was taken; it
begins where the caller says, and every step begins where the one before it has led. -/

namespace RemoteQuery

variable {σ : Type}

def Session.reached (session : Session σ) (earlier : List (Moment σ)) : Session σ :=
  earlier.foldl (fun _ moment => moment.after) session

theorem Session.reached_concat (session : Session σ) (earlier : List (Moment σ))
    (moment : Moment σ) : session.reached (earlier ++ [moment]) = moment.after := by
  rw [reached, List.foldl_append]
  rfl

namespace Connection

variable {connection : Connection} {service : Service σ}

def Took (connection : Connection) (service : Service σ) (moment : Moment σ) : Prop :=
  connection.perform service moment.step moment.before = some (moment.result, moment.after)

theorem run_cons (connection : Connection) (service : Service σ) {step : Step} {rest : List Step}
    {session after : Session σ} {result : StepResult}
    (came : connection.perform service step session = some (result, after)) :
    connection.run service (step :: rest) session
      = { step := step, before := session, result := result, after := after }
        :: connection.run service rest after := by
  rw [run, came]

theorem run_of_endless (connection : Connection) (service : Service σ) {step : Step}
    {rest : List Step} {session : Session σ}
    (never : connection.perform service step session = none) :
    connection.run service (step :: rest) session = [] := by
  rw [run, never]

/-- What holds before the first step and is kept by every step holds before every step. -/
theorem run_induction (connection : Connection) (service : Service σ)
    {motive : List Step → Session σ → List (Moment σ) → Prop}
    (nil : ∀ session, motive [] session [])
    (endless : ∀ step rest session, connection.perform service step session = none →
      motive (step :: rest) session [])
    (cons : ∀ moment rest, connection.Took service moment →
      motive rest moment.after (connection.run service rest moment.after) →
      motive (moment.step :: rest) moment.before
        (moment :: connection.run service rest moment.after))
    (steps : List Step) (session : Session σ) :
    motive steps session (connection.run service steps session) := by
  induction steps generalizing session with
  | nil => exact nil session
  | cons step rest inductionHypothesis =>
      cases came : connection.perform service step session with
      | none =>
          rw [connection.run_of_endless service came]
          exact endless step rest session came
      | some told =>
          obtain ⟨result, after⟩ := told
          rw [connection.run_cons service came]
          exact cons { step := step, before := session, result := result, after := after } rest
            came (inductionHypothesis after)

theorem took_of_mem_run {steps : List Step} {session : Session σ} {moment : Moment σ}
    (member : moment ∈ connection.run service steps session) :
    connection.Took service moment := by
  revert moment
  refine connection.run_induction service
    (motive := fun _ _ moments => ∀ {moment}, moment ∈ moments → connection.Took service moment)
    ?_ ?_ ?_ steps session
  · intro session moment member
    cases member
  · intro step rest session never moment member
    cases member
  · intro first rest took inductionHypothesis moment member
    rcases List.mem_cons.mp member with here | later
    · rw [here]
      exact took
    · exact inductionHypothesis later

theorem run_before {steps : List Step} {session : Session σ}
    {earlier later : List (Moment σ)} {moment : Moment σ}
    (split : connection.run service steps session = earlier ++ moment :: later) :
    moment.before = session.reached earlier := by
  revert earlier moment later
  refine connection.run_induction service
    (motive := fun _ session moments => ∀ {earlier later moment},
      moments = earlier ++ moment :: later → moment.before = session.reached earlier)
    ?_ ?_ ?_ steps session
  · intro session earlier later moment split
    cases earlier <;> cases split
  · intro step rest session never earlier later moment split
    cases earlier <;> cases split
  · intro first rest took inductionHypothesis earlier later moment split
    cases earlier with
    | nil =>
        cases split
        rfl
    | cons _ earlier =>
        obtain ⟨rfl, behind⟩ := List.cons.inj split
        exact inductionHypothesis behind

end Connection

end RemoteQuery
