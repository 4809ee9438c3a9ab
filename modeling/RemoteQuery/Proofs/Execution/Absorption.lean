import RemoteQuery.Proofs.Execution.Turn
import RemoteQuery.Proofs.Text.Case
import RemoteQuery.Script
set_option autoImplicit false

/-! Failures that are none.  An execution that failed or was cancelled is taken for a success if
its reason tells that the partition is there already, and for no other reason.  The reason is
compared in lower case; that comes to the same as comparing it as it was told, up to the case of
its ASCII letters. -/

namespace RemoteQuery

namespace Descriptor

/-- Some part of the reason reads so, up to the case of ASCII letters. -/
def TellsOfPartition (descriptor : Descriptor) : Prop :=
  ∃ part : String, part.toList <:+: descriptor.reason.toList ∧
    Text.equalsIgnoringAsciiCase part "Partition already exists" = true

private theorem absorbedReason_steady : Text.Steady absorbedReason.toList where
  small := @of_decide_eq_true _ (List.decidableBAll _ _) rfl
  undotted := by decide

theorem hasInfix_absorbedReason_iff (descriptor : Descriptor) :
    Text.hasInfix absorbedReason.toList (Text.lowercase descriptor.reason.toList) = true
      ↔ descriptor.TellsOfPartition := by
  have lowered : "Partition already exists".toList.map Char.toLower = absorbedReason.toList :=
    rfl
  rw [Text.hasInfix_iff, Text.infix_lowercase_iff absorbedReason_steady]
  unfold TellsOfPartition Text.equalsIgnoringAsciiCase
  constructor
  · rintro ⟨found, stands, same⟩
    refine ⟨String.ofList found, ?_, ?_⟩
    · rw [String.toList_ofList]
      exact stands
    · rw [String.toList_ofList, same, lowered, beq_self_eq_true]
  · rintro ⟨part, stands, same⟩
    exact ⟨part.toList, stands, (eq_of_beq same).trans lowered⟩

private theorem resolve_of_unsuccessful {descriptor : Descriptor}
    (unsuccessful : descriptor.state = .failed ∨ descriptor.state = .cancelled) :
    descriptor.resolve = descriptor.resolveFailure := by
  unfold resolve
  rcases unsuccessful with failed | cancelled
  · rw [failed]
  · rw [cancelled]

private theorem resolve_of_tellsOfPartition {descriptor : Descriptor}
    (unsuccessful : descriptor.state = .failed ∨ descriptor.state = .cancelled)
    (tells : descriptor.TellsOfPartition) : descriptor.resolve = .ok descriptor := by
  rw [resolve_of_unsuccessful unsuccessful, resolveFailure,
    if_pos (descriptor.hasInfix_absorbedReason_iff.mpr tells)]

private theorem resolve_of_other {descriptor : Descriptor}
    (unsuccessful : descriptor.state = .failed ∨ descriptor.state = .cancelled)
    (other : ¬ descriptor.TellsOfPartition) :
    descriptor.resolve = .error (.execution descriptor.state descriptor.reason) := by
  rw [resolve_of_unsuccessful unsuccessful, resolveFailure,
    if_neg (mt descriptor.hasInfix_absorbedReason_iff.mp other)]

end Descriptor

namespace Service

variable {σ : Type} {service : Service σ} {policy : PollPolicy} {submission : Submission}
  {world before : World σ} {wait : Wait} {descriptor : Descriptor}

theorem Waiting.execute_of_terminal {cancels : Bool}
    (waiting : service.Waiting policy submission world wait before)
    (live : before.cancelled = false)
    (reply : service.pollReply wait before
      = .answer { result := .ok descriptor, cancels := cancels })
    (terminal : descriptor.isTerminal = true) :
    service.execute policy submission.context submission.statement world
      = some (descriptor.resolve, service.polled wait before) := by
  have ended : service.turn policy wait before
      = .ended descriptor.resolve (service.polled wait before) := by
    rw [turn_live wait before live, reply]
    simp only [heed, terminal, if_true]
  rw [waiting.execute_eq, await_of_ended ended]

/-- What is absorbed is exactly what tells of the partition, whenever it is told; everything else
is reported with its state and its reason. -/
theorem absorbs_iff_tellsOfPartition (descriptor : Descriptor)
    (unsuccessful : descriptor.state = .failed ∨ descriptor.state = .cancelled) :
    (descriptor.resolve = .ok descriptor ↔ descriptor.TellsOfPartition) ∧
      (¬ descriptor.TellsOfPartition →
        descriptor.resolve = .error (.execution descriptor.state descriptor.reason)) ∧
      ∀ {σ : Type} (service : Service σ) (policy : PollPolicy) (submission : Submission)
        (world before : World σ) (wait : Wait) (cancels : Bool),
        service.Waiting policy submission world wait before → before.cancelled = false →
        service.pollReply wait before
          = .answer { result := .ok descriptor, cancels := cancels } →
        service.execute policy submission.context submission.statement world
          = some (descriptor.resolve, service.polled wait before) := by
  refine ⟨⟨?_, Descriptor.resolve_of_tellsOfPartition unsuccessful⟩,
    Descriptor.resolve_of_other unsuccessful, ?_⟩
  · intro absorbed
    refine Classical.byContradiction fun other => ?_
    rw [Descriptor.resolve_of_other unsuccessful other] at absorbed
    cases absorbed
  · intro σ service policy submission world before wait cancels waiting live reply
    have terminal : descriptor.isTerminal = true := by
      unfold Descriptor.isTerminal
      rcases unsuccessful with failed | cancelled
      · rw [failed]
        rfl
      · rw [cancelled]
        rfl
    exact waiting.execute_of_terminal live reply terminal

/-- A reason with letters around the wording that only lower case takes for ASCII ones, or that
go by their neighbours. -/
def crowdedReason : String := "\u212A\u0130\u03A3partITION Already eXISTs\u0130\u212A\u03A3"

def crowdedScript : Script :=
  let poll : ScriptedPoll :=
    { cancels := false, failure := none, executionId := none, state := .cancelled
      resultLocation := none, reason := some crowdedReason, statistics := none }
  { acknowledgement := "q", startFailure := none, cancelsOnStart := false
    polls := [poll], stopFailure := none, objects := [], reachesCaller := true }

def crowdedWorld : World Script :=
  { remote := crowdedScript, cancelled := false, clock := 0, calls := [], staging := .fresh [] }

def crowdedDescriptor : Descriptor :=
  { Descriptor.pending "q" with state := .cancelled, stateChangeReason := some crowdedReason }

theorem absorbs_iff_tellsOfPartition_crowded :
    (crowdedDescriptor.state = .failed ∨ crowdedDescriptor.state = .cancelled) ∧
      ∃ after, (Script.service "scripted").execute PollPolicy.standard default "SELECT 1"
        crowdedWorld = some (.ok crowdedDescriptor, after) := by
  have tells : crowdedDescriptor.TellsOfPartition := by
    refine ⟨"partITION Already eXISTs",
      ⟨crowdedReason.toList.take 3, crowdedReason.toList.drop 27, ?_⟩, ?_⟩
    · decide
    · decide
  have absorbs := absorbs_iff_tellsOfPartition crowdedDescriptor (Or.inr rfl)
  have waiting : (Script.service "scripted").Waiting PollPolicy.standard
      { statement := "SELECT 1", context := default } crowdedWorld _ _ :=
    .first "q" ⟨rfl, rfl, by decide⟩
  have ended := absorbs.2.2 _ _ _ _ _ _ false waiting rfl rfl
  rw [absorbs.1.mpr tells] at ended
  exact ⟨Or.inr rfl, _, ended⟩

end Service

end RemoteQuery
