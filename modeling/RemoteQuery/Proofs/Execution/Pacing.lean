import RemoteQuery.Proofs.Execution.Reference
import RemoteQuery.Proofs.Paging
import RemoteQuery.Proofs.Poll
import RemoteQuery.Settings
set_option autoImplicit false

/-! How far apart status calls are.  The intervals of a policy start at its interval, never
become shorter, and never go past the ceiling, whatever the factor.  A connection without a
deadline sleeps for exactly these intervals, and its settings keep the first one above zero. -/

namespace RemoteQuery

namespace PollPolicy

open Service (intervalAt)

/-- What holds of all intervals of a policy.  No step goes wrong: whatever the product, there is
a next interval, and it fits wherever the two settings fit. -/
structure Paced (policy : PollPolicy) : Prop where
  between : ∀ turn, policy.interval ≤ intervalAt policy turn ∧
    intervalAt policy turn ≤ max policy.interval policy.maxInterval
  fits : ∀ limit, policy.interval < limit → policy.maxInterval < limit →
    ∀ turn, intervalAt policy turn < limit
  grows : Monotone (intervalAt policy)
  /-- An infinite or undefined factor, or one up to one, keeps the interval. -/
  kept : Decimal.isFinite policy.backoffFactor = false ∨ policy.backoffFactor ≤ Decimal.ofInt 1 →
    ∀ turn, intervalAt policy turn = policy.interval
  /-- The longest interval is kept from then on. -/
  capped : ∀ turn later, turn ≤ later →
    intervalAt policy turn = max policy.interval policy.maxInterval →
    intervalAt policy later = max policy.interval policy.maxInterval
  /-- A product that no interval can hold leads to the longest interval. -/
  overflowed : ∀ turn later, turn < later →
    Decimal.isFinite policy.backoffFactor = true → ¬policy.backoffFactor ≤ Decimal.ofInt 1 →
    nanosOf? (secondsOf (intervalAt policy turn) * policy.backoffFactor) = none →
    intervalAt policy later = max policy.interval policy.maxInterval

variable {policy : PollPolicy}

private theorem intervalAt_le_ceiling (policy : PollPolicy) (turn : Nat) :
    intervalAt policy turn ≤ policy.ceiling := by
  induction turn with
  | zero => exact Nat.le_max_right _ _
  | succ turn inductionHypothesis => exact (nextInterval_between inductionHypothesis).2

private theorem intervalAt_mono (policy : PollPolicy) : Monotone (intervalAt policy) :=
  monotone_nat_of_le_succ fun turn =>
    (nextInterval_between (intervalAt_le_ceiling policy turn)).1

private theorem intervalAt_kept (stays : policy.grows = false) (turn : Nat) :
    intervalAt policy turn = policy.interval := by
  induction turn with
  | zero => rfl
  | succ turn inductionHypothesis =>
      rw [intervalAt, nextInterval_kept stays, inductionHypothesis]

private theorem intervalAt_capped {turn later : Nat} (before : turn ≤ later)
    (reached : intervalAt policy turn = policy.ceiling) :
    intervalAt policy later = policy.ceiling := by
  refine Nat.le_antisymm (intervalAt_le_ceiling policy later) ?_
  rw [← reached]
  exact intervalAt_mono policy before

private theorem paced (policy : PollPolicy) : policy.Paced := by
  have ceiling : policy.ceiling = max policy.interval policy.maxInterval := Nat.max_comm _ _
  constructor
  · intro turn
    rw [← ceiling]
    exact ⟨intervalAt_mono policy (Nat.zero_le turn), intervalAt_le_ceiling policy turn⟩
  · intro limit intervalFits maxFits turn
    refine Nat.lt_of_le_of_lt (intervalAt_le_ceiling policy turn) ?_
    rw [ceiling]
    exact Nat.max_lt.mpr ⟨intervalFits, maxFits⟩
  · exact intervalAt_mono policy
  · intro special
    refine intervalAt_kept ?_
    rw [PollPolicy.grows]
    rcases special with infinite | small
    · rw [infinite]
      rfl
    · rw [decide_eq_true small, Bool.not_true, Bool.and_false]
  · intro turn later before reached
    rw [← ceiling] at reached ⊢
    exact intervalAt_capped before reached
  · intro turn later before finite above lost
    have grows : policy.grows = true := by
      rw [PollPolicy.grows, finite, decide_eq_false above]
      rfl
    rw [← ceiling]
    exact intervalAt_capped before (nextInterval_overflowed grows lost)

end PollPolicy

namespace Service

variable {σ : Type} {service : Service σ} {policy : PollPolicy} {submission : Submission}
  {world before between : World σ} {wait next : Wait}

theorem again_of_turn (again : service.turn policy wait before = .again next between) :
    ∃ pause, pause? policy wait before.clock = some pause ∧
      between.clock = before.clock + dividedUp pause nanosPerMilli ∧
      between.calls = before.calls ++ [.poll wait.executionId before.clock] ∧
      next.interval = policy.nextInterval wait.interval := by
  have turned := service.turn_turned policy wait before
  rw [again] at turned
  cases turned with
  | again live descriptor pause reply going due => exact ⟨pause, due, rfl, rfl, rfl⟩

theorem turn_of_going {descriptor : Descriptor} {pause : Nat} (live : before.cancelled = false)
    (reply : service.pollReply wait before
      = .answer { result := .ok descriptor, cancels := false })
    (going : descriptor.isTerminal = false)
    (due : pause? policy wait before.clock = some pause) :
    service.turn policy wait before = .again
      { wait with
        executionId := descriptor.executionId
        interval := policy.nextInterval wait.interval }
      { service.polled wait before with
        clock := before.clock + dividedUp pause nanosPerMilli } := by
  have stillLive := service.polled_cancelled wait before live
  rw [reply] at stillLive
  change (service.polled wait before).cancelled = false at stillLive
  rw [turn_live wait before live, reply]
  simp only [heed, going, polled, made_clock, due, Bool.false_eq_true, if_false]
  change (if (service.polled wait before).cancelled = true then _ else _) = _
  rw [stillLive]
  rfl

theorem Waiting.interval_eq (waiting : service.Waiting policy submission world wait before) :
    ∃ turn, wait.interval = intervalAt policy turn := by
  induction waiting with
  | first executionId accepted => exact ⟨0, rfl⟩
  | next waiting again inductionHypothesis =>
      obtain ⟨turn, same⟩ := inductionHypothesis
      obtain ⟨pause, _, _, _, grown⟩ := again_of_turn again
      exact ⟨turn + 1, by rw [grown, same, intervalAt]⟩

private theorem dividedUp_between {number lower upper divisor : Nat} (positive : 0 < divisor)
    (above : lower * divisor ≤ number) (below : number ≤ upper * divisor) :
    lower ≤ dividedUp number divisor ∧ dividedUp number divisor ≤ upper := by
  unfold dividedUp
  constructor
  · exact (Nat.le_div_iff_mul_le positive).mpr (by omega)
  · refine Nat.le_of_lt_succ ((Nat.div_lt_iff_lt_mul positive).mpr ?_)
    rw [Nat.succ_mul]
    omega

/-- What holds of all sleeps of an execution: each is one of at least the interval of the
settings and at most the longer of their two intervals, and so status calls are apart. -/
structure PacesPolls (service : Service σ) (settings : Settings) (submission : Submission)
    (world : World σ) : Prop where
  positive : 0 < settings.poll.intervalMillis.toNat
  sleeps : ∀ wait before, service.Waiting settings.pollPolicy submission world wait before →
    ∃ pause, pause? settings.pollPolicy wait before.clock = some pause ∧
      settings.poll.intervalMillis.toNat * nanosPerMilli ≤ pause ∧
      pause ≤ max settings.poll.intervalMillis.toNat settings.poll.maxIntervalMillis.toNat
        * nanosPerMilli
  apart : ∀ wait before next between,
    service.Waiting settings.pollPolicy submission world wait before →
    service.turn settings.pollPolicy wait before = .again next between →
    between.calls = before.calls ++ [.poll wait.executionId before.clock] ∧
    before.clock + settings.poll.intervalMillis.toNat ≤ between.clock ∧
    between.clock ≤ before.clock
      + max settings.poll.intervalMillis.toNat settings.poll.maxIntervalMillis.toNat

private theorem intervalMillis_pos {settings : Settings} (valid : settings.validate = .ok ()) :
    0 < settings.poll.intervalMillis.toNat := by
  refine Nat.pos_of_ne_zero fun none => ?_
  have zero : settings.poll.intervalMillis = 0 := UInt64.toNat_inj.mp none
  rw [Settings.validate] at valid
  obtain ⟨_, _, valid⟩ := Window.bind_eq_ok_iff.mp valid
  obtain ⟨_, _, valid⟩ := Window.bind_eq_ok_iff.mp valid
  obtain ⟨_, _, valid⟩ := Window.bind_eq_ok_iff.mp valid
  obtain ⟨_, _, valid⟩ := Window.bind_eq_ok_iff.mp valid
  obtain ⟨_, _, valid⟩ := Window.bind_eq_ok_iff.mp valid
  dsimp only at valid
  rw [if_pos zero] at valid
  split at valid <;> cases valid

private theorem pacesPolls {settings : Settings} (valid : settings.validate = .ok ())
    (endless : settings.poll.timeoutSeconds = 0) :
    service.PacesPolls settings submission world := by
  have never : settings.pollPolicy.timeout = none := if_pos endless
  have sleeps (wait : Wait) (before : World σ)
      (waiting : service.Waiting settings.pollPolicy submission world wait before) :
      ∃ pause, pause? settings.pollPolicy wait before.clock = some pause ∧
        settings.poll.intervalMillis.toNat * nanosPerMilli ≤ pause ∧
        pause ≤ max settings.poll.intervalMillis.toNat settings.poll.maxIntervalMillis.toNat
          * nanosPerMilli := by
    obtain ⟨turn, same⟩ := waiting.interval_eq
    have bounds := settings.pollPolicy.paced.between turn
    rw [← same] at bounds
    refine ⟨wait.interval, by rw [pause?, never], bounds.1, ?_⟩
    rw [← Nat.mul_max_mul_right]
    exact bounds.2
  refine ⟨intervalMillis_pos valid, sleeps, ?_⟩
  intro wait before next between waiting again
  obtain ⟨pause, due, clock, calls, _⟩ := again_of_turn again
  obtain ⟨known, sameDue, above, below⟩ := sleeps wait before waiting
  rw [due] at sameDue
  cases sameDue
  have slept := dividedUp_between (by decide) above below
  exact ⟨calls, by omega, by omega⟩

/-- Whatever the policy, its intervals keep between its own interval and the ceiling and
never become shorter.  So with settings that are accepted and set no deadline, no two status
calls follow each other without a sleep between those bounds. -/
theorem polls_paced (policy : PollPolicy) (settings : Settings) (service : Service σ)
    (submission : Submission) (world : World σ) :
    policy.Paced ∧
      (settings.validate = .ok () → settings.poll.timeoutSeconds = 0 →
        service.PacesPolls settings submission world) :=
  ⟨policy.paced, pacesPolls⟩

def pacedSettings : Settings :=
  { engine := {
      region := "us-east-1", database := "analytics", tablePrefix := "", workGroup := "primary"
      endpoint := some "http://localhost:4566", pretend := false, escapeBindings := true }
    storage := {
      bucket := "query-results", outputFolder := "athena", stagingPath := "./storage"
      endpoint := some "http://localhost:4566" }
    poll := {
      intervalMillis := 100, maxIntervalMillis := 250, backoffFactor := Decimal.ofInt 2
      timeoutSeconds := 0 }
    logLevel := "info" }

example : (List.range 4).map (intervalAt pacedSettings.pollPolicy)
    = [100 * nanosPerMilli, 200 * nanosPerMilli, 250 * nanosPerMilli, 250 * nanosPerMilli] := by
  decide +kernel

theorem polls_paced_quick :
    pacedSettings.validate = .ok () ∧ pacedSettings.poll.timeoutSeconds = 0 ∧
      ∃ wait before next between,
        (Script.service "scripted").Waiting pacedSettings.pollPolicy
          { statement := "SELECT 1", context := default } quickWorld wait before ∧
        (Script.service "scripted").turn pacedSettings.pollPolicy wait before
          = .again next between ∧
        before.clock + 100 ≤ between.clock ∧ between.clock ≤ before.clock + 250 := by
  have valid : pacedSettings.validate = .ok () := by
    have factor : Settings.isBackoffFactor (Decimal.ofInt 2) = true := by decide +kernel
    rw [Settings.validate, pacedSettings, factor]
    rfl
  have paced := (polls_paced pacedSettings.pollPolicy pacedSettings (Script.service "scripted")
    { statement := "SELECT 1", context := default } quickWorld).2 valid rfl
  have waiting : (Script.service "scripted").Waiting pacedSettings.pollPolicy
      { statement := "SELECT 1", context := default } quickWorld _ _ :=
    .first "q" ⟨rfl, rfl, by decide⟩
  have reply : (Script.service "scripted").pollReply
      { executionId := "q", interval := pacedSettings.pollPolicy.interval, started := 0 }
      ((Script.service "scripted").made
        (.start { statement := "SELECT 1", context := default }) quickWorld)
      = .answer
        { result := .ok { Descriptor.pending "q" with state := .running }, cancels := false } :=
    rfl
  have due : pause? pacedSettings.pollPolicy
      { executionId := "q", interval := pacedSettings.pollPolicy.interval, started := 0 } 0
      = some pacedSettings.pollPolicy.interval := rfl
  have again := turn_of_going rfl reply rfl due
  obtain ⟨_, slept, soon⟩ := paced.apart _ _ _ _ waiting again
  exact ⟨valid, rfl, _, _, _, _, waiting, again, slept, soon⟩

end Service

end RemoteQuery
