import RemoteQuery.Proofs.Connection.Answer
import RemoteQuery.Proofs.Materialize
set_option autoImplicit false

/-! What one request calls.  Running its statement comes first, then at most one download,
and a caller who has cancelled by then gets neither the download nor an answer. -/

namespace RemoteQuery.Connection

variable {σ : Type}

variable {connection : Connection} {service : Service σ}

theorem collect_of_cancelled (connection : Connection) (service : Service σ)
    (descriptor : Descriptor) (world : World σ) (cancelled : world.cancelled = true) :
    ∃ error, connection.collect service descriptor world = (.error error, world) := by
  rw [collect]
  cases Artifact.ofDescriptor descriptor connection.folders.outputFolder with
  | error error => exact ⟨error, rfl⟩
  | ok artifact => exact ⟨.cancelled descriptor.executionId, if_pos cancelled⟩

private theorem collect_downloads (connection : Connection) (service : Service σ)
    (descriptor : Descriptor) (world : World σ) :
    service.DownloadsOnce world (connection.collect service descriptor world).2 := by
  rw [collect]
  cases Artifact.ofDescriptor descriptor connection.folders.outputFolder with
  | error error => exact ⟨[], .refl service world, Or.inl rfl⟩
  | ok artifact =>
      cases cancelled : world.cancelled with
      | true => exact ⟨[], .refl service world, Or.inl rfl⟩
      | false =>
          have once := service.materialize_downloads connection.folders descriptor world
          simp only [Bool.false_eq_true, if_false]
          cases came : service.materialize connection.folders descriptor world with
          | mk outcome after =>
              rw [came] at once
              cases outcome with
              | interrupted => exact once
              | finished result => cases result <;> exact once

/-- The trace of a request of a live caller: what running the statement calls, and a
download behind it unless the caller has cancelled by then. -/
structure Queried (service : Service σ) (downloads : Bool) (session : Session σ)
    (executed concluded : List Call) (result : StepResult) (after : Session σ) : Prop where
  traced : service.Traced (executed ++ concluded) session.world after.world
  undownloaded : ∀ call, call ∈ executed → call.isDownload = false
  halts : service.HaltsOnCancel session.world.remote executed
  once : concluded = [] ∨ ∃ objectPath, concluded = [.download objectPath]
  prevented : service.cancelsIn session.world.remote executed = true →
    concluded = [] ∧ (downloads = true → ∃ failure, result = .refused failure)

namespace Queried

variable {downloads : Bool} {session after : Session σ} {executed concluded : List Call}
  {result : StepResult}

private theorem unmoved (same : after.world = session.world) :
    Queried service downloads session [] [] result after where
  traced := by
    rw [same]
    exact .refl service session.world
  undownloaded := by
    intro call member
    cases member
  halts := trivial
  once := Or.inl rfl
  prevented := fun impossible => (Bool.false_ne_true impossible).elim

private theorem of_executed {between : World σ} (live : session.world.cancelled = false)
    (ran : service.Executed executed session.world between)
    (behind : service.Traced concluded between after.world)
    (once : concluded = [] ∨ ∃ objectPath, concluded = [.download objectPath])
    (prevented : between.cancelled = true →
      concluded = [] ∧ (downloads = true → ∃ failure, result = .refused failure)) :
    Queried service downloads session executed concluded result after where
  traced := ran.traced.trans behind
  undownloaded := ran.undownloaded
  halts := ran.halts live
  once := once
  prevented := by
    intro cancels
    apply prevented
    rw [ran.traced.cancelled_eq, cancels, Bool.or_true]

theorem haltsOnCancel
    (queried : Queried service downloads session executed concluded result after) :
    service.HaltsOnCancel session.world.remote (executed ++ concluded) := by
  cases cancels : service.cancelsIn session.world.remote executed with
  | true =>
      rw [(queried.prevented cancels).1, List.append_nil]
      exact queried.halts
  | false =>
      apply (service.haltsOnCancel_append _ _ _ cancels).mpr
      rcases queried.once with none | ⟨objectPath, single⟩
      · rw [none]
        trivial
      · rw [single]
        exact service.haltsOnCancel_single _ _

end Queried

theorem Answered.queried {α : Type} {pretended : α}
    {finish : Descriptor → World σ → Except QueryError α × World σ} {request : Request}
    {session : Session σ} {answered : CallResult α × Session σ}
    (came : connection.Answered service pretended finish request session answered)
    (live : session.world.cancelled = false) (downloads : Bool) (content : α → StepResult)
    (once : ∀ descriptor world, service.DownloadsOnce world (finish descriptor world).2)
    (prevented : ∀ descriptor world, world.cancelled = true →
      (finish descriptor world).2 = world ∧
        (downloads = true → ∃ error, (finish descriptor world).1 = .error error)) :
    ∃ executed concluded, Queried service downloads session executed concluded
      (StepResult.ofCall content answered.1) answered.2 := by
  cases came with
  | pretended pretending => exact ⟨[], [], .unmoved (Session.note_world _ _ _)⟩
  | unprepared serious failure failed after same => exact ⟨[], [], .unmoved same⟩
  | failed serious statement prepared error world ended =>
      obtain ⟨executed, ran⟩ := Service.execute_executed ended
      refine ⟨executed, [], .of_executed live ran ?_ (Or.inl rfl) ?_⟩
      · rw [Session.note_world]
        exact .refl service world
      · intro cancelled
        exact ⟨rfl, fun _ => ⟨_, rfl⟩⟩
  | concluded serious statement prepared descriptor world ended =>
      obtain ⟨executed, ran⟩ := Service.execute_executed ended
      obtain ⟨concluded, traced, atMostOne⟩ := once descriptor world
      refine ⟨executed, concluded, .of_executed live ran ?_ atMostOne ?_⟩
      · rw [Session.note_world]
        exact traced
      · intro cancelled
        obtain ⟨same, refused⟩ := prevented descriptor world cancelled
        rw [same] at traced
        constructor
        · exact List.self_eq_append_right.mp traced.calls_eq
        · intro asked
          obtain ⟨error, ended⟩ := refused asked
          exact ⟨.refused error, by rw [ended]; rfl⟩

theorem query_queried {mode : Mode} {request : Request} {session after : Session σ}
    {result : StepResult} (live : session.world.cancelled = false)
    (came : connection.query service mode request session = some (result, after)) :
    ∃ executed concluded,
      Queried service mode.downloads session executed concluded result after := by
  rcases connection.query_eq_call service mode request session with
    ⟨nothing, β, pretended, finish, content, still, same⟩ | ⟨_, content, same⟩
  · rw [same] at came
    obtain ⟨answered, called, told⟩ := Option.map_eq_some_iff.mp came
    cases told
    refine (call_answered called).queried live mode.downloads content ?_ ?_
    · intro descriptor world
      rw [still]
      exact ⟨[], .refl service world, Or.inl rfl⟩
    · intro descriptor world _
      refine ⟨still descriptor world, fun asked => ?_⟩
      rw [nothing] at asked
      cases asked
  · rw [same] at came
    obtain ⟨answered, called, told⟩ := Option.map_eq_some_iff.mp came
    cases told
    refine (call_answered called).queried live mode.downloads content
      (connection.collect_downloads service) ?_
    intro descriptor world cancelled
    obtain ⟨error, same⟩ := connection.collect_of_cancelled service descriptor world cancelled
    rw [same]
    exact ⟨rfl, fun _ => ⟨error, rfl⟩⟩

end RemoteQuery.Connection
