import Mathlib.Data.List.Induction
import RemoteQuery.Proofs.Staging.Shared
set_option autoImplicit false

/-! The steps of turning an artifact into rows.  The folder is made sure of, the file is
created, the pieces of the artifact are appended as they come, the file is read back and
removed.  The caller may give up between any two steps; once there is a guard for the file,
that leads to the removal as well.  Without giving up, the steps come to what
materializing an execution comes to in one. -/

namespace RemoteQuery

/-- An artifact as the store brings it: its pieces, and how the download of them ends. -/
structure Parcel where
  artifact : Artifact
  pieces : List (List UInt8)
  reply : Reply Unit

/-- Where the steps of a parcel have come to. -/
inductive Phase where
  | opening
  | creating
  | filling (left : List (List UInt8))
  | reading
  | removing (outcome : Outcome (List Record))
  /-- The file is guarded from when it is to be created; before that nothing is removed. -/
  | ended (outcome : Outcome (List Record)) (guarded : Bool)

inductive Action where
  | advance
  | giveUp
  deriving Repr, DecidableEq, Inhabited

namespace Parcel

def unstaged (parcel : Parcel) (fault : FileFault) : Outcome (List Record) :=
  .finished (.error (.download parcel.artifact.objectPath (.system fault.message)))

/-- What a download without its end makes of a parcel; nothing if all of it has arrived. -/
def dropped? (parcel : Parcel) : Option (Outcome (List Record)) :=
  match parcel.reply with
  | .interrupted => some .interrupted
  | .answer { result := .error error, .. } =>
      some (.finished (.error (.download parcel.artifact.objectPath (.error error))))
  | .answer { result := .ok (), cancels } => if cancels then some .interrupted else none

def readBack (parcel : Parcel) (folders : ResultFolders) (staging : Staging) :
    Outcome (List Record) :=
  .finished ((Service.readStaged folders parcel.artifact staging).map Record.ofRows)

def advance (parcel : Parcel) (folders : ResultFolders) (phase : Phase) (staging : Staging) :
    Phase × Staging :=
  match phase with
  | .opening =>
      match staging.ensure with
      | (some fault, made) => (.ended (parcel.unstaged fault) false, made)
      | (none, made) => (.creating, made)
  | .creating =>
      match staging.create parcel.artifact.fileName with
      | .error fault => (.removing (parcel.unstaged fault), staging)
      | .ok staged => (.filling parcel.pieces, staged)
  | .filling (piece :: left) => (.filling left, staging.append parcel.artifact.fileName piece)
  | .filling [] =>
      match parcel.dropped? with
      | some outcome => (.removing outcome, staging)
      | none => (.reading, staging)
  | .reading => (.removing (parcel.readBack folders staging), staging)
  | .removing outcome => (.ended outcome true, staging.remove parcel.artifact.fileName)
  | .ended outcome guarded => (.ended outcome guarded, staging)

end Parcel

def Phase.guarded : Phase → Bool
  | opening => false
  | creating | filling _ | reading | removing _ => true
  | ended _ guarded => guarded

def Phase.giveUp : Phase → Phase
  | opening => ended .interrupted false
  | creating | filling _ | reading => removing .interrupted
  | removing outcome => removing outcome
  | ended outcome guarded => ended outcome guarded

namespace Parcel

def act (parcel : Parcel) (folders : ResultFolders) (action : Action) (phase : Phase)
    (staging : Staging) : Phase × Staging :=
  match action with
  | .advance => parcel.advance folders phase staging
  | .giveUp => (phase.giveUp, staging)

/-- What actions come to when nobody else uses the staging folder. -/
def alone (parcel : Parcel) (folders : ResultFolders) (staging : Staging)
    (actions : List Action) : Phase × Staging :=
  actions.foldl (fun reached action => parcel.act folders action reached.1 reached.2)
    (.opening, staging)

/-- A parcel is what a service brings for an execution. -/
structure Of {σ : Type} (parcel : Parcel) (service : Service σ) (folders : ResultFolders)
    (descriptor : Descriptor) (remote : σ) : Prop where
  located : Artifact.ofDescriptor descriptor folders.outputFolder = .ok parcel.artifact
  written : parcel.pieces.flatten = (service.download parcel.artifact.objectPath remote).1.written
  reply : parcel.reply = (service.download parcel.artifact.objectPath remote).1.reply

variable (parcel : Parcel) (folders : ResultFolders) {reached next : Phase × Staging}

inductive Advances : Phase × Staging → Phase × Staging → Prop where
  | unopened (staging : Staging) (fault : FileFault) (missing : staging.ensure.1 = some fault) :
      Advances (.opening, staging) (.ended (parcel.unstaged fault) false, staging.ensure.2)
  | opened (staging : Staging) (there : staging.ensure.1 = none) :
      Advances (.opening, staging) (.creating, staging.ensure.2)
  | uncreated (staging : Staging) (fault : FileFault)
      (refused : staging.create parcel.artifact.fileName = .error fault) :
      Advances (.creating, staging) (.removing (parcel.unstaged fault), staging)
  | created (staging staged : Staging)
      (created : staging.create parcel.artifact.fileName = .ok staged) :
      Advances (.creating, staging) (.filling parcel.pieces, staged)
  | filled (staging : Staging) (piece : List UInt8) (left : List (List UInt8)) :
      Advances (.filling (piece :: left), staging)
        (.filling left, staging.append parcel.artifact.fileName piece)
  | dropped (staging : Staging) (outcome : Outcome (List Record))
      (partly : parcel.dropped? = some outcome) :
      Advances (.filling [], staging) (.removing outcome, staging)
  | arrived (staging : Staging) (whole : parcel.dropped? = none) :
      Advances (.filling [], staging) (.reading, staging)
  | read (staging : Staging) :
      Advances (.reading, staging) (.removing (parcel.readBack folders staging), staging)
  | removed (staging : Staging) (outcome : Outcome (List Record)) :
      Advances (.removing outcome, staging)
        (.ended outcome true, staging.remove parcel.artifact.fileName)
  | still (staging : Staging) (outcome : Outcome (List Record)) (guarded : Bool) :
      Advances (.ended outcome guarded, staging) (.ended outcome guarded, staging)

theorem advance_opening (staging : Staging) :
    parcel.advance folders .opening staging
      = (match staging.ensure.1 with
          | some fault => .ended (parcel.unstaged fault) false
          | none => .creating, staging.ensure.2) := by
  rw [advance]
  cases staging.ensure with
  | mk fault made => cases fault <;> rfl

theorem advance_advances (phase : Phase) (staging : Staging) :
    parcel.Advances folders (phase, staging) (parcel.advance folders phase staging) := by
  cases phase with
  | opening =>
      rw [advance_opening]
      cases told : staging.ensure.1 with
      | some fault => exact .unopened staging fault told
      | none => exact .opened staging told
  | creating =>
      rw [advance]
      cases created : staging.create parcel.artifact.fileName with
      | error fault => exact .uncreated staging fault created
      | ok staged => exact .created staging staged created
  | filling left =>
      cases left with
      | nil =>
          rw [advance]
          cases reply : parcel.dropped? with
          | some outcome => exact .dropped staging outcome reply
          | none => exact .arrived staging reply
      | cons piece left => exact .filled staging piece left
  | reading => exact .read staging
  | removing outcome => exact .removed staging outcome
  | ended outcome guarded => exact .still staging outcome guarded

theorem alone_concat (staging : Staging) (actions : List Action) (action : Action) :
    parcel.alone folders staging (actions ++ [action])
      = parcel.act folders action (parcel.alone folders staging actions).1
          (parcel.alone folders staging actions).2 := by
  rw [alone, List.foldl_append]
  rfl

/-! ### What a step does to the folder -/

variable {parcel folders} in
theorem Advances.touched (advances : parcel.Advances folders reached next) :
    Staging.Touched parcel.artifact.fileName reached.2 next.2 := by
  cases advances with
  | unopened | opened => exact .ensured
  | created staging staged created => exact Staging.touched_create created
  | filled staging piece left => exact Staging.touched_append piece
  | removed => exact Staging.touched_remove
  | uncreated | dropped | arrived | read | still => exact .still

theorem act_touched (action : Action) (phase : Phase) (staging : Staging) :
    Staging.Touched parcel.artifact.fileName staging
      (parcel.act folders action phase staging).2 := by
  cases action with
  | giveUp => exact .still
  | advance => exact (parcel.advance_advances folders phase staging).touched

/-! ### The end that steps come to -/

def filledEnd (staging : Staging) : Outcome (List Record) × Staging :=
  (parcel.dropped?.getD (parcel.readBack folders staging),
    staging.remove parcel.artifact.fileName)

def fill (pieces : List (List UInt8)) (staging : Staging) : Staging :=
  pieces.foldl (fun staging piece => staging.append parcel.artifact.fileName piece) staging

def createdEnd (staging : Staging) : Outcome (List Record) × Staging :=
  match staging.create parcel.artifact.fileName with
  | .error fault => (parcel.unstaged fault, staging.remove parcel.artifact.fileName)
  | .ok staged => parcel.filledEnd folders (parcel.fill parcel.pieces staged)

/-- The end that a phase is going to have if nobody gives up. -/
def outlook (phase : Phase) (staging : Staging) : Outcome (List Record) × Staging :=
  match phase with
  | .opening =>
      match staging.ensure with
      | (some fault, made) => (parcel.unstaged fault, made)
      | (none, made) => parcel.createdEnd folders made
  | .creating => parcel.createdEnd folders staging
  | .filling left => parcel.filledEnd folders (parcel.fill left staging)
  | .reading => (parcel.readBack folders staging, staging.remove parcel.artifact.fileName)
  | .removing outcome => (outcome, staging.remove parcel.artifact.fileName)
  | .ended outcome _ => (outcome, staging)

variable {parcel folders} in
theorem Advances.outlook_eq (advances : parcel.Advances folders reached next) :
    parcel.outlook folders next.1 next.2 = parcel.outlook folders reached.1 reached.2 := by
  cases advances with
  | unopened staging fault missing =>
      simp only [outlook]
      cases ensured : staging.ensure with
      | mk told made =>
          rw [ensured] at missing
          cases missing
          rfl
  | opened staging there =>
      simp only [outlook]
      cases ensured : staging.ensure with
      | mk told made =>
          rw [ensured] at there
          cases there
          rfl
  | uncreated staging fault refused => simp only [outlook, createdEnd, refused]
  | created staging staged created => simp only [outlook, createdEnd, created]
  | filled => rfl
  | dropped staging outcome partly =>
      simp only [outlook, filledEnd, fill, List.foldl_nil, partly, Option.getD_some]
  | arrived staging whole =>
      simp only [outlook, filledEnd, fill, List.foldl_nil, whole, Option.getD_none]
  | read => rfl
  | removed => rfl
  | still => rfl

theorem outlook_alone (staging : Staging) {actions : List Action}
    (patient : Action.giveUp ∉ actions) :
    parcel.outlook folders (parcel.alone folders staging actions).1
        (parcel.alone folders staging actions).2
      = parcel.outlook folders .opening staging := by
  induction actions using List.reverseRecOn with
  | nil => rfl
  | append_singleton earlier action inductionHypothesis =>
      rw [List.mem_append, not_or] at patient
      have advances : action = .advance := by
        cases action with
        | advance => rfl
        | giveUp => exact (patient.2 (List.mem_singleton_self _)).elim
      rw [alone_concat, advances]
      exact (parcel.advance_advances folders _ _).outlook_eq.trans (inductionHypothesis patient.1)

/-! ### Materializing in one -/

private theorem fill_append (pieces : List (List UInt8)) (staging : Staging) (bytes : List UInt8) :
    parcel.fill pieces (staging.append parcel.artifact.fileName bytes)
      = staging.append parcel.artifact.fileName (bytes ++ pieces.flatten) := by
  induction pieces generalizing bytes with
  | nil => rw [fill, List.foldl_nil, List.flatten_nil, List.append_nil]
  | cons piece left inductionHypothesis =>
      rw [fill, List.foldl_cons, Staging.append_append, ← fill, inductionHypothesis,
        List.flatten_cons, List.append_assoc]

theorem fill_created {staging staged : Staging}
    (created : staging.create parcel.artifact.fileName = .ok staged) :
    parcel.fill parcel.pieces staged
      = staged.append parcel.artifact.fileName parcel.pieces.flatten := by
  have whole := parcel.fill_append parcel.pieces staged []
  rwa [(Staging.created_of_create created).append_nil, List.nil_append] at whole

/-- Step by step a parcel has the end that materializing the execution has in one. -/
theorem outlook_opening {σ : Type} {service : Service σ} {descriptor : Descriptor}
    {world : World σ} (brought : parcel.Of service folders descriptor world.remote) :
    parcel.outlook folders .opening world.staging
      = ((service.materialize folders descriptor world).1,
          (service.materialize folders descriptor world).2.staging) := by
  rw [Service.materialize, brought.located]
  simp only
  rw [Service.fetchArtifact, outlook]
  cases world.staging.ensure with
  | mk fault made =>
      cases fault with
      | some fault => rfl
      | none =>
          simp only
          rw [createdEnd]
          cases created : made.create parcel.artifact.fileName with
          | error fault => rfl
          | ok staged =>
              simp only [Service.fill, Service.callDownload_eq, filledEnd, dropped?,
                parcel.fill_created created, brought.written, brought.reply]
              cases (service.download parcel.artifact.objectPath world.remote).1.reply with
              | interrupted => rfl
              | answer answer =>
                  obtain ⟨result, cancels⟩ := answer
                  cases result with
                  | error error => rfl
                  | ok content => cases cancels <;> rfl

/-! ### The way to the end -/

def remaining : Phase → Nat
  | .opening => parcel.pieces.length + 5
  | .creating => parcel.pieces.length + 4
  | .filling left => left.length + 3
  | .reading => 2
  | .removing _ => 1
  | .ended _ _ => 0

variable {parcel folders} in
theorem Advances.remaining_le (advances : parcel.Advances folders reached next) :
    parcel.remaining next.1 ≤ parcel.remaining reached.1 - 1 := by
  cases advances <;> simp only [remaining, List.length_cons, List.length_nil] <;> omega

private theorem remaining_giveUp (phase : Phase) :
    parcel.remaining phase.giveUp ≤ parcel.remaining phase := by
  cases phase <;> simp only [Phase.giveUp, remaining] <;> omega

private theorem remaining_alone (staging : Staging) (actions : List Action) :
    parcel.remaining (parcel.alone folders staging actions).1
      ≤ parcel.pieces.length + 5 - actions.count .advance := by
  induction actions using List.reverseRecOn with
  | nil => exact Nat.le_refl _
  | append_singleton earlier action inductionHypothesis =>
      rw [alone_concat, List.count_append]
      cases action with
      | advance =>
          have fewer := (parcel.advance_advances folders
            (parcel.alone folders staging earlier).1
            (parcel.alone folders staging earlier).2).remaining_le
          rw [List.count_singleton_self, act]
          simp only at fewer
          omega
      | giveUp =>
          have nothing : [Action.giveUp].count .advance = 0 := rfl
          rw [nothing, Nat.add_zero]
          exact Nat.le_trans (parcel.remaining_giveUp _) inductionHypothesis

theorem alone_ends (staging : Staging) {actions : List Action}
    (enough : parcel.pieces.length + 5 ≤ actions.count .advance) :
    ∃ outcome guarded, (parcel.alone folders staging actions).1 = .ended outcome guarded := by
  have nothing := parcel.remaining_alone folders staging actions
  rw [Nat.sub_eq_zero_of_le enough, Nat.le_zero] at nothing
  cases reached : (parcel.alone folders staging actions).1 with
  | ended outcome guarded => exact ⟨outcome, guarded, rfl⟩
  | _ =>
      rw [reached] at nothing
      cases nothing

/-! ### What is left of the file -/

/-- What stands under the name of a parcel when a phase has been reached. -/
def Settles (start : Staging) (phase : Phase) (reached : Staging) : Prop :=
  match phase with
  | .opening | .creating | .ended _ false =>
      reached.content? parcel.artifact.fileName = start.content? parcel.artifact.fileName
  | .filling _ | .reading => Disk.nameFault? parcel.artifact.fileName = none
  | .removing _ => Disk.nameFault? parcel.artifact.fileName ≠ none →
      reached.content? parcel.artifact.fileName = start.content? parcel.artifact.fileName
  | .ended _ true =>
      (Disk.nameFault? parcel.artifact.fileName = none →
        reached.content? parcel.artifact.fileName = none) ∧
      (Disk.nameFault? parcel.artifact.fileName ≠ none →
        reached.content? parcel.artifact.fileName = start.content? parcel.artifact.fileName)

variable {parcel folders} in
theorem Advances.settles {start : Staging} (advances : parcel.Advances folders reached next)
    (settles : parcel.Settles start reached.1 reached.2) :
    parcel.Settles start next.1 next.2 := by
  cases advances with
  | unopened staging | opened staging =>
      exact (staging.content?_ensure parcel.artifact.fileName).trans settles
  | uncreated => exact fun _ => settles
  | created staging staged created => exact (Staging.created_of_create created).sound
  | filled | arrived | still => exact settles
  | dropped | read => exact fun impossible => (impossible settles).elim
  | removed staging outcome =>
      refine ⟨Staging.content?_remove, fun impossible => ?_⟩
      obtain ⟨fault, found⟩ := Option.ne_none_iff_exists'.mp impossible
      simp only [Staging.remove_of_fault found]
      exact settles impossible

private theorem giveUp_settles {start : Staging} {phase : Phase} {staging : Staging}
    (settles : parcel.Settles start phase staging) :
    parcel.Settles start phase.giveUp staging := by
  cases phase with
  | opening => exact settles
  | creating => exact fun _ => settles
  | filling left => exact fun impossible => (impossible settles).elim
  | reading => exact fun impossible => (impossible settles).elim
  | removing outcome => exact settles
  | ended outcome guarded => exact settles

private theorem alone_settles (staging : Staging) (actions : List Action) :
    parcel.Settles staging (parcel.alone folders staging actions).1
      (parcel.alone folders staging actions).2 := by
  induction actions using List.reverseRecOn with
  | nil => exact rfl
  | append_singleton earlier action inductionHypothesis =>
      rw [alone_concat]
      cases action with
      | advance => exact (parcel.advance_advances folders _ _).settles inductionHypothesis
      | giveUp => exact parcel.giveUp_settles inductionHypothesis

/-! ### The guard -/

private theorem act_ne_opening (action : Action) (phase : Phase) (staging : Staging) :
    (parcel.act folders action phase staging).1 ≠ .opening := by
  cases action with
  | giveUp => cases phase <;> exact Phase.noConfusion
  | advance =>
      have advances := parcel.advance_advances folders phase staging
      rw [act]
      generalize parcel.advance folders phase staging = next at advances
      cases advances <;> exact Phase.noConfusion

/-- Whether there is a guard is settled by the first step. -/
theorem act_guarded (action : Action) {phase : Phase} (staging : Staging)
    (begun : phase ≠ .opening) :
    (parcel.act folders action phase staging).1.guarded = phase.guarded := by
  cases action with
  | giveUp =>
      cases phase with
      | opening => exact (begun rfl).elim
      | _ => rfl
  | advance =>
      have advances := parcel.advance_advances folders phase staging
      rw [act]
      generalize parcel.advance folders phase staging = next at advances
      cases advances with
      | unopened | opened => exact (begun rfl).elim
      | _ => rfl

private theorem alone_guarded (staging : Staging) (first : Action) (later : List Action) :
    (parcel.alone folders staging (first :: later)).1.guarded
      = (parcel.act folders first .opening staging).1.guarded := by
  induction later using List.reverseRecOn with
  | nil => rfl
  | append_singleton earlier action inductionHypothesis =>
      have begun : (parcel.alone folders staging (first :: earlier)).1 ≠ .opening := by
        rcases List.eq_nil_or_concat (first :: earlier) with empty | ⟨before, last, same⟩
        · cases empty
        · rw [same, List.concat_eq_append, alone_concat]
          exact parcel.act_ne_opening folders last _ _
      rw [← List.cons_append, alone_concat, parcel.act_guarded folders action _ begun]
      exact inductionHypothesis

/-- The file is guarded from when the folder has been made sure of. -/
def Guards (staging : Staging) (actions : List Action) : Prop :=
  staging.ensure.1 = none ∧ actions.head? = some .advance

theorem guards_iff {staging : Staging} {actions : List Action}
    {outcome : Outcome (List Record)} {guarded : Bool}
    (ended : (parcel.alone folders staging actions).1 = .ended outcome guarded) :
    Guards staging actions ↔ guarded = true := by
  cases actions with
  | nil => cases ended
  | cons first later =>
      have settled := parcel.alone_guarded folders staging first later
      rw [ended] at settled
      change guarded = _ at settled
      rw [settled, Guards, List.head?_cons, Option.some_inj]
      cases first with
      | giveUp =>
          exact iff_of_false (fun guards => Action.noConfusion guards.2) Bool.false_ne_true
      | advance =>
          rw [act, advance_opening]
          cases staging.ensure.1 with
          | some fault =>
              exact iff_of_false (fun guards => Option.some_ne_none fault guards.1)
                Bool.false_ne_true
          | none => exact iff_of_true ⟨rfl, rfl⟩ rfl

/-- The file comes under a guard, and the file system takes its name. -/
def Clears (staging : Staging) (actions : List Action) : Prop :=
  Guards staging actions ∧ Disk.nameFault? parcel.artifact.fileName = none

theorem alone_removed {staging : Staging} {actions : List Action}
    {outcome : Outcome (List Record)} {guarded : Bool}
    (ended : (parcel.alone folders staging actions).1 = .ended outcome guarded)
    (clears : parcel.Clears staging actions) :
    (parcel.alone folders staging actions).2.content? parcel.artifact.fileName = none := by
  have settles := parcel.alone_settles folders staging actions
  rw [ended, (parcel.guards_iff folders ended).mp clears.1] at settles
  exact settles.1 clears.2

theorem alone_spared {staging : Staging} {actions : List Action}
    {outcome : Outcome (List Record)} {guarded : Bool}
    (ended : (parcel.alone folders staging actions).1 = .ended outcome guarded)
    (spares : ¬ parcel.Clears staging actions) :
    (parcel.alone folders staging actions).2.content? parcel.artifact.fileName
      = staging.content? parcel.artifact.fileName := by
  have settles := parcel.alone_settles folders staging actions
  rw [ended] at settles
  cases guarded with
  | false => exact settles
  | true =>
      have guards := (parcel.guards_iff folders ended).mpr rfl
      exact settles.2 fun possible => spares ⟨guards, possible⟩

end Parcel

end RemoteQuery
