import RemoteQuery.Service
set_option autoImplicit false

/-! Calls to the service, all seen alike: each one is written down, takes the service to
its next state, and may come with the word that the caller has cancelled.  A list of
calls can be replayed against a service, so that what they did and where the caller
cancelled can be told from the list alone. -/

namespace RemoteQuery.Service

variable {σ : Type}

/-- The state of the service after a call. -/
def stateAfter (service : Service σ) (remote : σ) : Call → σ
  | .start submission => (service.start submission remote).2
  | .poll executionId _ => (service.status executionId remote).2
  | .stop executionId => (service.stop executionId remote).2
  | .download objectPath => (service.download objectPath remote).2

def cancelsDuring (service : Service σ) (remote : σ) : Call → Bool
  | .start submission => (service.start submission remote).1.cancels
  | .poll executionId _ => (service.status executionId remote).1.cancels
  | .stop _ => false
  | .download objectPath => (service.download objectPath remote).1.reply.cancels

def made (service : Service σ) (call : Call) (world : World σ) : World σ :=
  (world.record call).after (service.stateAfter world.remote call)
    (service.cancelsDuring world.remote call)

section Fields

variable (service : Service σ) (call : Call) (world : World σ)

@[simp] theorem made_cancelled : (service.made call world).cancelled =
    (world.cancelled || service.cancelsDuring world.remote call) := rfl

@[simp] theorem made_clock : (service.made call world).clock = world.clock := rfl

@[simp] theorem made_calls : (service.made call world).calls = world.calls ++ [call] := rfl

end Fields

theorem callStart_eq (service : Service σ) (submission : Submission) (world : World σ) :
    service.callStart submission world =
      ((service.start submission world.remote).1.result,
        service.made (.start submission) world) := rfl

theorem callStatus_eq (service : Service σ) (executionId : String) (world : World σ) :
    service.callStatus executionId world =
      ((service.status executionId world.remote).1,
        service.made (.poll executionId world.clock) world) := rfl

theorem callDownload_eq (service : Service σ) (objectPath : String) (world : World σ) :
    service.callDownload objectPath world =
      ((service.download objectPath world.remote).1,
        service.made (.download objectPath) world) := rfl

/-! ### Lists of calls -/

/-- The calls of a list, each with whether the caller cancels while it is pending. -/
def marked (service : Service σ) : σ → List Call → List (Call × Bool)
  | _, [] => []
  | remote, call :: rest =>
      (call, service.cancelsDuring remote call)
        :: service.marked (service.stateAfter remote call) rest

def stateAfterAll (service : Service σ) (remote : σ) (calls : List Call) : σ :=
  calls.foldl service.stateAfter remote

def cancelsIn (service : Service σ) (remote : σ) (calls : List Call) : Bool :=
  (service.marked remote calls).any fun item => item.2

theorem marked_append (service : Service σ) (remote : σ) (first second : List Call) :
    service.marked remote (first ++ second)
      = service.marked remote first
        ++ service.marked (service.stateAfterAll remote first) second := by
  induction first generalizing remote with
  | nil => rfl
  | cons call rest inductionHypothesis =>
      rw [List.cons_append, marked, inductionHypothesis]
      rfl

private theorem cancelsIn_append (service : Service σ) (remote : σ) (first second : List Call) :
    service.cancelsIn remote (first ++ second)
      = (service.cancelsIn remote first
        || service.cancelsIn (service.stateAfterAll remote first) second) := by
  rw [cancelsIn, marked_append, List.any_append]
  rfl

theorem cancelsIn_singleton (service : Service σ) (remote : σ) (call : Call) :
    service.cancelsIn remote [call] = service.cancelsDuring remote call :=
  Bool.or_false _

/-- One world comes from another by these calls; the clock and the staging folder are
left open. -/
structure Traced (service : Service σ) (calls : List Call) (world after : World σ) : Prop where
  calls_eq : after.calls = world.calls ++ calls
  remote_eq : after.remote = service.stateAfterAll world.remote calls
  cancelled_eq : after.cancelled = (world.cancelled || service.cancelsIn world.remote calls)

namespace Traced

variable {service : Service σ} {world between after : World σ} {first second : List Call}

theorem refl (service : Service σ) (world : World σ) : Traced service [] world world :=
  ⟨(List.append_nil world.calls).symm, rfl, (Bool.or_false world.cancelled).symm⟩

theorem single (service : Service σ) (call : Call) (world : World σ) :
    Traced service [call] world (service.made call world) :=
  ⟨rfl, rfl, by rw [made_cancelled, cancelsIn_singleton]⟩

theorem trans (before : Traced service first world between)
    (behind : Traced service second between after) :
    Traced service (first ++ second) world after := by
  refine ⟨?_, ?_, ?_⟩
  · rw [behind.calls_eq, before.calls_eq, List.append_assoc]
  · rw [behind.remote_eq, before.remote_eq, stateAfterAll, stateAfterAll, stateAfterAll,
      List.foldl_append]
  · rw [behind.cancelled_eq, before.cancelled_eq, before.remote_eq, cancelsIn_append,
      Bool.or_assoc]

theorem restaged (traced : Traced service first world after) (staging last : Staging) :
    Traced service first { world with staging := staging } { after with staging := last } :=
  ⟨traced.calls_eq, traced.remote_eq, traced.cancelled_eq⟩

theorem drop_calls (traced : Traced service first world after) :
    after.calls.drop world.calls.length = first := by
  rw [traced.calls_eq, List.drop_left]

end Traced

/-- Behind the first call during which the caller cancels comes at most a stop. -/
def HaltsOnCancel (service : Service σ) : σ → List Call → Prop
  | _, [] => True
  | remote, call :: rest =>
      if service.cancelsDuring remote call then
        rest = [] ∨ ∃ executionId, rest = [.stop executionId]
      else service.HaltsOnCancel (service.stateAfter remote call) rest

theorem haltsOnCancel_append (service : Service σ) (remote : σ) (first second : List Call)
    (quiet : service.cancelsIn remote first = false) :
    service.HaltsOnCancel remote (first ++ second)
      ↔ service.HaltsOnCancel (service.stateAfterAll remote first) second := by
  induction first generalizing remote with
  | nil => exact Iff.rfl
  | cons call rest inductionHypothesis =>
      have quietParts := Bool.or_eq_false_iff.mp quiet
      rw [List.cons_append, HaltsOnCancel, if_neg (Bool.eq_false_iff.mp quietParts.1)]
      exact inductionHypothesis (service.stateAfter remote call) quietParts.2

theorem haltsOnCancel_single (service : Service σ) (remote : σ) (call : Call) :
    service.HaltsOnCancel remote [call] := by
  rw [HaltsOnCancel]
  split
  · exact Or.inl rfl
  · trivial

theorem HaltsOnCancel.behind {service : Service σ} {remote : σ} {calls : List Call}
    (halts : service.HaltsOnCancel remote calls) {earlier later : List (Call × Bool)}
    {call : Call} (split : service.marked remote calls = earlier ++ (call, true) :: later) :
    later = [] ∨ ∃ executionId, later = [(.stop executionId, false)] := by
  induction calls generalizing remote earlier with
  | nil => cases earlier <;> cases split
  | cons head rest inductionHypothesis =>
      rw [HaltsOnCancel] at halts
      rw [marked] at split
      cases cancels : service.cancelsDuring remote head with
      | true =>
          rw [cancels, if_pos rfl] at halts
          have short : service.marked (service.stateAfter remote head) rest = [] ∨
              ∃ executionId, service.marked (service.stateAfter remote head) rest
                = [(.stop executionId, false)] := by
            rcases halts with empty | ⟨executionId, single⟩
            · rw [empty]
              exact Or.inl rfl
            · rw [single]
              exact Or.inr ⟨executionId, rfl⟩
          cases earlier with
          | nil =>
              obtain ⟨_, tail⟩ := List.cons.inj split
              rw [← tail]
              exact short
          | cons first earlier =>
              obtain ⟨_, tail⟩ := List.cons.inj split
              rcases short with empty | ⟨executionId, single⟩
              · rw [empty] at tail
                cases earlier <;> cases tail
              · rw [single] at tail
                cases earlier with
                | nil => cases tail
                | cons _ earlier => cases earlier <;> cases tail
      | false =>
          rw [cancels, if_neg Bool.false_ne_true] at halts
          cases earlier with
          | nil =>
              obtain ⟨cancelled, _⟩ := List.cons.inj split
              exact (Bool.false_ne_true (cancels.symm.trans (Prod.mk.inj cancelled).2)).elim
          | cons first earlier =>
              obtain ⟨_, tail⟩ := List.cons.inj split
              exact inductionHypothesis halts tail

end RemoteQuery.Service
