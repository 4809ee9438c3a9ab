import Mathlib.Logic.Function.Basic
import RemoteQuery.Proofs.Materialize.Steps
import RemoteQuery.Script
set_option autoImplicit false

/-! Calls that turn artifacts into rows at the same time and share the staging folder.
Their steps come in any order.  As long as no two of them have a file of the same name,
none can tell that the others are there: each comes to the end it would have come to with
the folder for itself, and its file is gone then. -/

namespace RemoteQuery

structure Race (ι : Type) where
  phases : ι → Phase
  staging : Staging

namespace Race

variable {ι : Type} [DecidableEq ι]

def begun (staging : Staging) : Race ι := { phases := fun _ => .opening, staging := staging }

def take (parcels : ι → Parcel) (folders : ResultFolders) (race : Race ι) (turn : ι × Action) :
    Race ι :=
  let reached := (parcels turn.1).act folders turn.2 (race.phases turn.1) race.staging
  { phases := Function.update race.phases turn.1 reached.1, staging := reached.2 }

def run (parcels : ι → Parcel) (folders : ResultFolders) (staging : Staging)
    (turns : List (ι × Action)) : Race ι :=
  turns.foldl (take parcels folders) (begun staging)

def own (who : ι) (turns : List (ι × Action)) : List Action :=
  turns.filterMap fun turn => if turn.1 = who then some turn.2 else none

/-- Among the others a call is where it would be alone. -/
structure Follows (parcel : Parcel) (alone : Phase × Staging) (phase : Phase)
    (shared : Staging) : Prop where
  phase_eq : phase = alone.1
  sees : Staging.Sees parcel.artifact.fileName alone.2 shared
  there : alone.1 = .creating → alone.2.IsThere ∧ shared.IsThere

/-- What holds of a call after any turns. -/
structure Undisturbed (parcels : ι → Parcel) (folders : ResultFolders) (staging : Staging)
    (turns : List (ι × Action)) (who : ι) : Prop where
  /-- It has come as far as with the folder for itself. -/
  alone : (run parcels folders staging turns).phases who
    = ((parcels who).alone folders staging (own who turns)).1
  /-- If it is not given up, its end is that of materializing the execution in one. -/
  materialized : ∀ {σ : Type} (service : Service σ) (descriptor : Descriptor) (world : World σ)
    (outcome : Outcome (List Record)) (guarded : Bool),
    (parcels who).Of service folders descriptor world.remote → world.staging = staging →
    .giveUp ∉ own who turns →
    (run parcels folders staging turns).phases who = .ended outcome guarded →
    outcome = (service.materialize folders descriptor world).1
  /-- It ends, whatever the others do. -/
  ends : (parcels who).pieces.length + 5 ≤ (own who turns).count .advance →
    ∃ outcome guarded, (run parcels folders staging turns).phases who = .ended outcome guarded
  /-- Its file is not left, neither one of its own nor one that it found. -/
  removed : ∀ outcome guarded,
    (run parcels folders staging turns).phases who = .ended outcome guarded →
    (parcels who).Clears staging (own who turns)
      ∨ staging.content? (parcels who).artifact.fileName = none →
    (run parcels folders staging turns).staging.content? (parcels who).artifact.fileName = none
  /-- A call that ends before it could have created a file leaves the one it found. -/
  spared : ∀ outcome guarded,
    (run parcels folders staging turns).phases who = .ended outcome guarded →
    ¬ (parcels who).Clears staging (own who turns) →
    (run parcels folders staging turns).staging.content? (parcels who).artifact.fileName
      = staging.content? (parcels who).artifact.fileName

/-! ### One turn -/

namespace Follows

variable {parcel : Parcel} {folders : ResultFolders} {alone : Phase × Staging} {phase : Phase}
  {shared : Staging}

private theorem giveUp (follows : Follows parcel alone phase shared) :
    Follows parcel (alone.1.giveUp, alone.2) phase.giveUp shared where
  phase_eq := congrArg Phase.giveUp follows.phase_eq
  sees := follows.sees
  there := by
    intro creating
    cases reached : alone.1 <;> rw [reached] at creating <;> cases creating

theorem advance (follows : Follows parcel alone phase shared) :
    Follows parcel (parcel.advance folders alone.1 alone.2)
      (parcel.advance folders phase shared).1 (parcel.advance folders phase shared).2 := by
  obtain ⟨alonePhase, staging⟩ := alone
  obtain ⟨rfl, sees, there⟩ := follows
  cases phase with
  | opening =>
      simp only [Parcel.advance_opening, sees.fault_eq]
      cases told : staging.ensure.1 with
      | some fault => exact ⟨rfl, sees.ensure, Phase.noConfusion⟩
      | none =>
          exact ⟨rfl, sees.ensure, fun _ => ⟨Staging.isThere_ensure told,
            Staging.isThere_ensure (sees.fault_eq.trans told)⟩⟩
  | creating =>
      obtain ⟨aloneThere, sharedThere⟩ := there rfl
      rcases sees.create aloneThere sharedThere with
        ⟨fault, refused, sharedRefused⟩ | ⟨created, sharedCreated⟩
      · simp only [Parcel.advance, refused, sharedRefused]
        exact ⟨rfl, sees, Phase.noConfusion⟩
      · simp only [Parcel.advance, created, sharedCreated]
        exact ⟨rfl, sees.put [], Phase.noConfusion⟩
  | filling left =>
      cases left with
      | nil =>
          simp only [Parcel.advance]
          cases parcel.dropped? <;> exact ⟨rfl, sees, Phase.noConfusion⟩
      | cons piece left => exact ⟨rfl, sees.append piece, Phase.noConfusion⟩
  | reading =>
      have same : parcel.readBack folders shared = parcel.readBack folders staging := by
        rw [Parcel.readBack, Parcel.readBack, Service.readStaged, Service.readStaged,
          sees.content?_eq]
      exact ⟨congrArg Phase.removing same, sees, Phase.noConfusion⟩
  | removing outcome => exact ⟨rfl, sees.remove, Phase.noConfusion⟩
  | ended outcome guarded => exact ⟨rfl, sees, Phase.noConfusion⟩

private theorem act (follows : Follows parcel alone phase shared) (action : Action) :
    Follows parcel (parcel.act folders action alone.1 alone.2)
      (parcel.act folders action phase shared).1 (parcel.act folders action phase shared).2 := by
  cases action with
  | advance => exact follows.advance
  | giveUp => exact follows.giveUp

/-- The step of a call with another file name cannot be told. -/
theorem touched (follows : Follows parcel alone phase shared) {other : String}
    {after : Staging} (touched : Staging.Touched other shared after)
    (apart : parcel.artifact.fileName ≠ other) : Follows parcel alone phase after where
  phase_eq := follows.phase_eq
  sees := follows.sees.touched touched apart
  there := fun creating => ⟨(follows.there creating).1, touched.there (follows.there creating).2⟩

end Follows

/-! ### Any turns -/

section Turns

variable (parcels : ι → Parcel) (folders : ResultFolders) (staging : Staging)

theorem run_concat (turns : List (ι × Action)) (turn : ι × Action) :
    run parcels folders staging (turns ++ [turn])
      = take parcels folders (run parcels folders staging turns) turn := by
  rw [run, List.foldl_append]
  rfl

private theorem own_concat_self (turns : List (ι × Action)) (who : ι) (action : Action) :
    own who (turns ++ [(who, action)]) = own who turns ++ [action] := by
  simp only [own, List.filterMap_append, List.filterMap_cons, List.filterMap_nil, if_pos]

private theorem own_concat_other (turns : List (ι × Action)) {who : ι} {turn : ι × Action}
    (other : turn.1 ≠ who) : own who (turns ++ [turn]) = own who turns := by
  simp only [own, List.filterMap_append, List.filterMap_cons, List.filterMap_nil, other, if_false,
    List.append_nil]

variable {parcels}

theorem run_follows (apart : Function.Injective fun who => (parcels who).artifact.fileName)
    (turns : List (ι × Action)) (who : ι) :
    Follows (parcels who) ((parcels who).alone folders staging (own who turns))
      ((run parcels folders staging turns).phases who)
      (run parcels folders staging turns).staging := by
  induction turns using List.reverseRecOn with
  | nil => exact ⟨rfl, .refl _ _, Phase.noConfusion⟩
  | append_singleton earlier turn inductionHypothesis =>
      obtain ⟨mover, action⟩ := turn
      rw [run_concat, take]
      by_cases moves : mover = who
      · subst moves
        rw [own_concat_self, Parcel.alone_concat]
        simp only [Function.update_self]
        exact inductionHypothesis.act action
      · rw [own_concat_other _ moves]
        simp only [Function.update_of_ne (Ne.symm moves)]
        exact inductionHypothesis.touched ((parcels mover).act_touched folders action _ _)
          fun same => moves (apart same).symm

end Turns

theorem run_undisturbed (parcels : ι → Parcel) (folders : ResultFolders) (staging : Staging)
    (apart : Function.Injective fun who => (parcels who).artifact.fileName)
    (turns : List (ι × Action)) (who : ι) :
    Undisturbed parcels folders staging turns who := by
  have follows := run_follows folders staging apart turns who
  have sameContent := follows.sees.content?_eq
  constructor
  · exact follows.phase_eq
  · intro σ service descriptor world outcome guarded brought same patient ended
    subst same
    have end_eq := ((parcels who).outlook_alone folders world.staging patient).trans
      ((parcels who).outlook_opening folders brought)
    rw [← follows.phase_eq, ended] at end_eq
    exact congrArg Prod.fst end_eq
  · intro enough
    rw [follows.phase_eq]
    exact (parcels who).alone_ends folders staging enough
  · intro outcome guarded ended gone
    rw [follows.phase_eq] at ended
    rw [sameContent]
    by_cases clears : (parcels who).Clears staging (own who turns)
    · exact (parcels who).alone_removed folders ended clears
    · exact ((parcels who).alone_spared folders ended clears).trans (gone.resolve_left clears)
  · intro outcome guarded ended spares
    rw [follows.phase_eq] at ended
    rw [sameContent]
    exact (parcels who).alone_spared folders ended spares

/-- A table that arrives in two pieces, and a download that hangs. -/
def crossing : Bool → Parcel
  | true =>
      { artifact := { objectPath := "/out/q-1.csv", fileName := "q-1.csv" }
        pieces := [[97, 10], [49, 10]], reply := .answer { result := .ok (), cancels := false } }
  | false =>
      { artifact := { objectPath := "/out/q-2.csv", fileName := "q-2.csv" }
        pieces := [[97]], reply := .interrupted }

def crossingScript : Script :=
  { acknowledgement := "", startFailure := none, cancelsOnStart := false, polls := []
    stopFailure := none
    objects := [("/out/q-1.csv", { content := [97, 10, 49, 10], failure := none, hangs := false })]
    reachesCaller := false }

def crossingWorld : World Script :=
  { remote := crossingScript, cancelled := false, clock := 0, calls := []
    staging := .fresh ["tmp", "results"] }

def crossingDescriptor : Descriptor :=
  { Descriptor.pending "q-1" with
    state := .succeeded, resultLocation := some "s3://bucket/out/q-1.csv" }

def crossingTurns : List (Bool × Action) :=
  [(true, .advance), (false, .advance), (false, .advance), (true, .advance), (true, .advance),
    (false, .advance), (true, .advance), (true, .advance), (false, .giveUp), (false, .advance),
    (true, .advance), (true, .advance)]

theorem run_undisturbed_crossing :
    let folders : ResultFolders := { outputFolder := "out", stagingPath := "/tmp/results" }
    let race := run crossing folders crossingWorld.staging crossingTurns
    race.phases true = .ended (.finished (.ok [{ fields := [("a", "1")] }])) true ∧
      ((Script.service "scripted").materialize folders crossingDescriptor crossingWorld).1
        = .finished (.ok [{ fields := [("a", "1")] }]) ∧
      race.phases false = .ended .interrupted true ∧
      race.staging.content? "q-1.csv" = none ∧ race.staging.content? "q-2.csv" = none := by
  intro folders race
  have apart : Function.Injective fun who => (crossing who).artifact.fileName := by
    intro first second same
    cases first <;> cases second
    · rfl
    · exact absurd same (by decide)
    · exact absurd same (by decide)
    · rfl
  have undisturbed := run_undisturbed crossing folders crossingWorld.staging apart crossingTurns
  have rows : Csv.read [97, 10, 49, 10] = .ok [["a"], ["1"]] := by decide +kernel
  have alone : ((crossing true).alone folders crossingWorld.staging (own true crossingTurns)).1
      = .ended (.finished ((readRows (joinPath "/tmp/results" "q-1.csv")
          (.ok [97, 10, 49, 10])).map Record.ofRows)) true := rfl
  have read : race.phases true = .ended (.finished (.ok [{ fields := [("a", "1")] }])) true := by
    rw [(undisturbed true).alone, alone, readRows, rows]
    rfl
  have stopped : race.phases false = .ended .interrupted true := by
    rw [(undisturbed false).alone]
    rfl
  have located : Artifact.ofDescriptor crossingDescriptor "out"
      = .ok { objectPath := "/out/q-1.csv", fileName := "q-1.csv" } := rfl
  have brought : (crossing true).Of (Script.service "scripted") folders crossingDescriptor
      crossingWorld.remote := ⟨located, rfl, rfl⟩
  have materialized := (undisturbed true).materialized (Script.service "scripted")
    crossingDescriptor crossingWorld _ _ brought rfl (by decide) read
  exact ⟨read, materialized.symm, stopped, (undisturbed true).removed _ _ read (Or.inr rfl),
    (undisturbed false).removed _ _ stopped (Or.inr rfl)⟩

end Race

end RemoteQuery
