import RemoteQuery.Http.Service
import RemoteQuery.Proofs.Http.Store
import RemoteQuery.Proofs.Materialize.Stages
set_option autoImplicit false

/-! How an object arrives.  Its chunks are handed over one by one until one is refused, so a
destination always holds a beginning of the body, however the body is cut.  Only the body
that came to its end and was taken chunk by chunk is counted, and it arrives as it is.
Anything else is an error of the store, and the file that was begun for it is taken away. -/

namespace RemoteQuery.Http

def Peer.next? (peer : Peer) : Option Response := peer.responses.head?.map Response.received

namespace Destination

def handedOver (chunks : List (List UInt8)) : Nat := chunks.countP fun chunk => !chunk.isEmpty

/-- The destination takes all chunks that are handed over, and is flushed behind them. -/
structure Takes (destination : Destination) (chunks : List (List UInt8)) : Prop where
  each : ∀ taken, taken < handedOver chunks → destination.refusal? taken = none
  flushed : destination.refusesFlush = none

private theorem handedOver_empty (rest : List (List UInt8)) :
    handedOver ([] :: rest) = handedOver rest :=
  List.countP_cons_of_neg (by decide)

private theorem handedOver_filled (byte : UInt8) (bytes : List UInt8) (rest : List (List UInt8)) :
    handedOver ((byte :: bytes) :: rest) = handedOver rest + 1 :=
  List.countP_cons_of_pos rfl

end Destination

namespace Store

/-! ### Passing chunks on -/

private theorem passOn_beginning (destination : Destination) (taken : Nat)
    (chunks : List (List UInt8)) :
    (passOn destination taken chunks).1 <+: chunks.flatten := by
  induction chunks generalizing taken with
  | nil => exact List.prefix_refl []
  | cons chunk rest inductionHypothesis =>
      cases chunk with
      | nil => exact inductionHypothesis taken
      | cons byte bytes =>
          rw [passOn, List.flatten_cons]
          cases destination.refusal? taken with
          | some fault =>
              have partly := List.take_prefix destination.takesOfRefused (byte :: bytes)
              exact partly.trans (List.prefix_append _ _)
          | none => exact (List.prefix_append_right_inj _).mpr (inductionHypothesis (taken + 1))

private theorem passOn_whole {destination : Destination} {taken : Nat} {chunks : List (List UInt8)}
    (accepted : (passOn destination taken chunks).2 = none) :
    (passOn destination taken chunks).1 = chunks.flatten := by
  induction chunks generalizing taken with
  | nil => rfl
  | cons chunk rest inductionHypothesis =>
      cases chunk with
      | nil => exact inductionHypothesis accepted
      | cons byte bytes =>
          rw [passOn] at accepted ⊢
          cases told : destination.refusal? taken with
          | some fault =>
              rw [told] at accepted
              cases accepted
          | none =>
              rw [told] at accepted
              exact congrArg (byte :: bytes ++ ·) (inductionHypothesis accepted)

theorem passOn_accepted_iff {destination : Destination} {taken : Nat}
    {chunks : List (List UInt8)} :
    (passOn destination taken chunks).2 = none ↔
      ∀ place, taken ≤ place → place < taken + Destination.handedOver chunks →
        destination.refusal? place = none := by
  induction chunks generalizing taken with
  | nil =>
      refine ⟨fun _ place reached before => ?_, fun _ => rfl⟩
      rw [Destination.handedOver, List.countP_nil] at before
      omega
  | cons chunk rest inductionHypothesis =>
      cases chunk with
      | nil =>
          rw [passOn, Destination.handedOver_empty]
          exact inductionHypothesis
      | cons byte bytes =>
          rw [passOn, Destination.handedOver_filled]
          cases told : destination.refusal? taken with
          | some fault =>
              constructor
              · intro impossible
                cases impossible
              · intro each
                rw [each taken (Nat.le_refl taken) (by omega)] at told
                cases told
          | none =>
              refine inductionHypothesis.trans ⟨fun each place reached before => ?_,
                fun each place reached before => each place (by omega) (by omega)⟩
              by_cases here : place = taken
              · rw [here, told]
              · exact each place (by omega) (by omega)

theorem takes_iff {destination : Destination} {chunks : List (List UInt8)} :
    destination.Takes chunks ↔
      (passOn destination 0 chunks).2 = none ∧ destination.refusesFlush = none := by
  rw [passOn_accepted_iff, Nat.zero_add]
  constructor
  · intro takes
    exact ⟨fun place _ => takes.each place, takes.flushed⟩
  · rintro ⟨each, flushed⟩
    exact ⟨fun place => each place (Nat.zero_le place), flushed⟩

theorem copy_of_takes {destination : Destination} {body : Body}
    (takes : destination.Takes body.chunks) (url : Url) (path : String) :
    copy url path destination body = {
      received := body.bytes
      result := if body.complete then .ok body.bytes.length
        else .error (.storage s!"Reading {url.written} failed: {bodyFailed}") } := by
  obtain ⟨accepted, flushed⟩ := takes_iff.mp takes
  have passed : passOn destination 0 body.chunks = (body.bytes, none) :=
    Prod.ext (passOn_whole accepted) accepted
  rw [copy, passed, flushed]
  cases body.complete with
  | true => rfl
  | false => rfl

/-! ### Failures -/

def notFoundText (store : Store) (path : String) : String :=
  s!"Object {path} not found in bucket {store.bucket}"

/-- A transfer that failed over a beginning of the bytes, and not because there is no such
object. -/
structure Broke (store : Store) (path : String) (bytes : List UInt8) (transfer : Transfer) :
    Prop where
  received : transfer.received <+: bytes
  failed : ∃ text, transfer.result = .error (.storage text) ∧ text ≠ store.notFoundText path

private theorem ne_notFoundText {text : String} {store : Store} {path : String}
    (begins : text.toList.head? ≠ some 'O') : text ≠ store.notFoundText path := by
  intro same
  apply begins
  rw [same]
  simp [notFoundText, toString]

theorem copy_broke {destination : Destination} {body : Body}
    (partly : ¬ (body.complete ∧ destination.Takes body.chunks)) (url : Url) (store : Store)
    (path : String) : store.Broke path body.bytes (copy url path destination body) := by
  have beginning := passOn_beginning destination 0 body.chunks
  rw [copy]
  cases passed : passOn destination 0 body.chunks with
  | mk received fault =>
      rw [passed] at beginning
      cases fault with
      | some fault => exact ⟨beginning, _, rfl, ne_notFoundText (by simp [toString])⟩
      | none =>
          cases complete : body.complete with
          | false => exact ⟨beginning, _, rfl, ne_notFoundText (by simp [toString])⟩
          | true =>
              cases flushed : destination.refusesFlush with
              | some fault => exact ⟨beginning, _, rfl, ne_notFoundText (by simp [toString])⟩
              | none =>
                  have accepted : (passOn destination 0 body.chunks).2 = none := by rw [passed]
                  exact (partly ⟨complete, takes_iff.mpr ⟨accepted, flushed⟩⟩).elim

/-! ### Answers -/

/-- The ways in which a download ends that was answered. -/
inductive Answered (store : Store) (destination : Destination) (path : String) (status : Nat)
    (body : Body) : Transfer → Prop where
  | arrived (succeeds : isSuccess status = true) (complete : body.complete = true)
      (takes : destination.Takes body.chunks) :
      Answered store destination path status body
        { received := body.bytes, result := .ok body.bytes.length }
  | missing (absent : status = 404) :
      Answered store destination path status body
        { received := [], result := .error (.storage (store.notFoundText path)) }
  | broke (transfer : Transfer) (found : status ≠ 404)
      (partly : ¬ (isSuccess status = true ∧ body.complete = true ∧
        destination.Takes body.chunks))
      (broke : store.Broke path body.bytes transfer)
      (unwritten : isSuccess status = false → transfer.received = []) :
      Answered store destination path status body transfer

private theorem found_of_success {status : Nat} (succeeds : isSuccess status = true) :
    status ≠ 404 := by
  intro absent
  rw [absent] at succeeds
  cases succeeds

private theorem readAnswer_answered (store : Store) (url : Url) (path : String)
    (destination : Destination) (status : Nat) (body : Body) :
    store.Answered destination path status body
      (store.readAnswer url path destination status body) := by
  rw [readAnswer]
  cases succeeds : isSuccess status with
  | true =>
      rw [if_pos rfl]
      by_cases taken : body.complete = true ∧ destination.Takes body.chunks
      · rw [copy_of_takes taken.2, if_pos taken.1]
        exact .arrived succeeds taken.1 taken.2
      · refine .broke _ (found_of_success succeeds) (fun all => taken all.2)
          (copy_broke taken url store path) ?_
        intro refused
        rw [succeeds] at refused
        cases refused
  | false =>
      rw [if_neg Bool.false_ne_true]
      by_cases absent : status = 404
      · rw [if_pos absent]
        exact .missing absent
      · rw [if_neg absent]
        refine .broke _ absent ?_ ⟨List.nil_prefix, _, rfl, ne_notFoundText ?_⟩ fun _ => rfl
        · intro all
          rw [succeeds] at all
          cases all.1
        · simp [toString]

/-- Only the bytes of a body and whether it came to its end make a difference to one who
takes every chunk. -/
theorem readAnswer_recut {destination : Destination} {body other : Body}
    (takes : destination.Takes body.chunks) (takesOther : destination.Takes other.chunks)
    (sameBytes : other.bytes = body.bytes) (sameEnd : other.complete = body.complete)
    (store : Store) (url : Url) (path : String) (status : Nat) :
    store.readAnswer url path destination status other
      = store.readAnswer url path destination status body := by
  have sameText : errorText other = errorText body := by
    rw [errorText, errorText, Body.bytes?, Body.bytes?, sameBytes, sameEnd]
  rw [readAnswer, readAnswer, copy_of_takes takes, copy_of_takes takesOther, sameBytes, sameEnd,
    sameText]

private theorem download_of_answered {peer : Peer} {status : Nat} {body : Body}
    (answered : peer.next? = some (.answered status body)) (store : Store)
    (destination : Destination) (path : String) :
    (store.download destination path peer).1
      = some (store.readAnswer (store.objectUrl path) path destination status body) := by
  obtain ⟨responses, requests, token⟩ := peer
  cases responses with
  | nil => cases answered
  | cons response rest =>
      have received : response.received = .answered status body := Option.some.inj answered
      simp only [download, Peer.exchange, received]

/-- What a download makes of an answer, whatever the chunks of its body. -/
structure Transfers (store : Store) (destination : Destination) (path : String) (status : Nat)
    (body : Body) (transfer : Transfer) : Prop where
  /-- A body that came to its end and was taken is counted, and nothing else is. -/
  counted : (∃ count, transfer.result = .ok count) ↔
    isSuccess status = true ∧ body.complete = true ∧ destination.Takes body.chunks
  whole : ∀ count, transfer.result = .ok count →
    transfer.received = body.bytes ∧ count = body.bytes.length
  /-- The same bytes in other chunks are the same to one who takes them. -/
  recut : ∀ (peer : Peer) (other : Body), peer.next? = some (.answered status other) →
    destination.Takes body.chunks → destination.Takes other.chunks →
    other.bytes = body.bytes → other.complete = body.complete →
    (store.download destination path peer).1 = some transfer
  failed : ∀ error, transfer.result = .error error → ∃ text, error = .storage text
  beginning : transfer.received <+: body.bytes
  unwritten : isSuccess status = false → transfer.received = []
  missing : transfer.result = .error (.storage (store.notFoundText path)) ↔ status = 404

section Transfers

variable {store : Store} {destination : Destination} {path : String} {status : Nat} {body : Body}
  {transfer : Transfer}

theorem Broke.not_counted {bytes : List UInt8} (broke : store.Broke path bytes transfer)
    (count : Nat) : transfer.result ≠ .ok count := by
  intro counted
  obtain ⟨text, told, _⟩ := broke.failed
  rw [told] at counted
  cases counted

theorem Answered.counted_iff (ended : store.Answered destination path status body transfer) :
    (∃ count, transfer.result = .ok count) ↔
      isSuccess status = true ∧ body.complete = true ∧ destination.Takes body.chunks := by
  cases ended with
  | arrived succeeds complete takes =>
      exact ⟨fun _ => ⟨succeeds, complete, takes⟩, fun _ => ⟨_, rfl⟩⟩
  | missing absent =>
      constructor
      · rintro ⟨count, counted⟩
        cases counted
      · rintro ⟨succeeds, _⟩
        exact (found_of_success succeeds absent).elim
  | broke _ found partly broke unwritten =>
      exact ⟨fun ⟨count, counted⟩ => (broke.not_counted count counted).elim,
        fun all => (partly all).elim⟩

theorem Answered.missing_iff (ended : store.Answered destination path status body transfer) :
    transfer.result = .error (.storage (store.notFoundText path)) ↔ status = 404 := by
  cases ended with
  | arrived succeeds complete takes =>
      constructor
      · intro failed
        cases failed
      · intro absent
        exact (found_of_success succeeds absent).elim
  | missing absent => exact ⟨fun _ => absent, fun _ => rfl⟩
  | broke _ found partly broke unwritten =>
      obtain ⟨text, told, other⟩ := broke.failed
      refine ⟨fun failed => (other ?_).elim, fun absent => (found absent).elim⟩
      rw [told] at failed
      exact QueryError.storage.inj (Except.error.inj failed)

theorem Answered.transfers (ended : store.Answered destination path status body transfer)
    (came : transfer = store.readAnswer (store.objectUrl path) path destination status body) :
    store.Transfers destination path status body transfer where
  counted := ended.counted_iff
  whole := by
    intro count counted
    cases ended with
    | arrived => exact ⟨rfl, (Except.ok.inj counted).symm⟩
    | missing => cases counted
    | broke _ found partly broke unwritten => exact (broke.not_counted count counted).elim
  recut := by
    intro peer other answered takes takesOther sameBytes sameEnd
    rw [download_of_answered answered, came,
      readAnswer_recut takes takesOther sameBytes sameEnd]
  failed := by
    intro error failed
    cases ended with
    | arrived => cases failed
    | missing => exact ⟨_, (Except.error.inj failed).symm⟩
    | broke _ found partly broke unwritten =>
        obtain ⟨text, told, _⟩ := broke.failed
        rw [told] at failed
        exact ⟨text, (Except.error.inj failed).symm⟩
  beginning := by
    cases ended with
    | arrived => exact List.prefix_refl body.bytes
    | missing => exact List.nil_prefix
    | broke _ found partly broke unwritten => exact broke.received
  unwritten := by
    intro refused
    cases ended with
    | arrived succeeds complete takes =>
        rw [refused] at succeeds
        cases succeeds
    | missing => rfl
    | broke _ found partly broke unwritten => exact unwritten refused
  missing := ended.missing_iff

end Transfers

end Store

/-! ### Staging what arrives -/

section Staging

variable {engine : Engine} {store : Store} {destination : Destination} {artifact : Artifact}
  {world : World Peer} {transfer : Store.Transfer}

private theorem serves_of_counted {count : Nat}
    (came : (store.download destination artifact.objectPath world.remote).1 = some transfer)
    (counted : transfer.result = .ok count) :
    (serviceTo destination engine store).Serves world.remote artifact.objectPath
      transfer.received := by
  change downloadOf (store.download destination artifact.objectPath world.remote).1 = _
  rw [came, downloadOf, counted]
  rfl

private theorem fails_of_failed {error : QueryError}
    (came : (store.download destination artifact.objectPath world.remote).1 = some transfer)
    (failed : transfer.result = .error error) :
    (serviceTo destination engine store).Fails world.remote artifact.objectPath error := by
  refine ⟨transfer.received, false, ?_⟩
  change downloadOf (store.download destination artifact.objectPath world.remote).1 = _
  rw [came, downloadOf, failed]
  rfl

/-- An artifact is staged with all of the bytes, or the download of it failed with the error
of the store and nothing of it is there. -/
structure Stages (artifact : Artifact) (body : Body) (transfer : Store.Transfer)
    (world : World Peer) (ended : Outcome Unit × World Peer) : Prop where
  whole : ∀ count, transfer.result = .ok count → ended.1 = .finished (.ok ()) ∧
    world.staging.Holds artifact.fileName body.bytes ended.2.staging
  gone : ∀ error, transfer.result = .error error →
    ended.1 = .finished (.error (.download artifact.objectPath (.error error))) ∧
      world.staging.Spares artifact.fileName ended.2.staging ∧
      ended.2.staging.content? artifact.fileName = none

private theorem fetchArtifact_stages {status : Nat} {body : Body}
    (takes : world.staging.Takes artifact.fileName)
    (came : (store.download destination artifact.objectPath world.remote).1 = some transfer)
    (transfers : store.Transfers destination artifact.objectPath status body transfer) :
    Stages artifact body transfer world
      ((serviceTo destination engine store).fetchArtifact artifact world) := by
  obtain ⟨partly, kept⟩ :=
    (serviceTo destination engine store).fetchArtifact_staging artifact world
  obtain ⟨there, staged, created⟩ := Staging.creates_iff_takes.mpr takes
  constructor
  · intro count counted
    have served := @serves_of_counted engine _ _ _ _ _ _ came counted
    have fetched := congrArg Prod.fst (Service.fetchArtifact_of_created there created served)
    obtain ⟨holds, _⟩ := kept fetched
    rw [served, (transfers.whole count counted).1] at holds
    exact ⟨fetched, holds⟩
  · intro error failed
    have fetched := Service.fetchArtifact_of_fails takes
      (@fails_of_failed engine _ _ _ _ _ _ came failed)
    have spares := partly (by rw [fetched]; exact fun same => by cases same)
    exact ⟨fetched, spares, spares.content?_eq_none ⟨there, staged, created⟩⟩

end Staging

/-- However the body of an answer is cut into chunks, it arrives as it is and is counted, or
the download is an error of the store over a beginning of it.  Staged, it is all there, or
the download failed and nothing of it is there. -/
theorem download_wholeOrGone (engine : Engine) (store : Store) (destination : Destination)
    (artifact : Artifact) (world : World Peer) (status : Nat) (body : Body)
    (answered : world.remote.next? = some (.answered status body)) :
    ∃ transfer,
      (store.download destination artifact.objectPath world.remote).1 = some transfer ∧
      store.Transfers destination artifact.objectPath status body transfer ∧
      (world.staging.Takes artifact.fileName →
        Stages artifact body transfer world
          ((serviceTo destination engine store).fetchArtifact artifact world)) := by
  have came := Store.download_of_answered answered store destination artifact.objectPath
  have transfers := (store.readAnswer_answered (store.objectUrl artifact.objectPath)
    artifact.objectPath destination status body).transfers rfl
  exact ⟨_, came, transfers, fun takes => fetchArtifact_stages takes came transfers⟩

def localStore : Store := { endpoint := Settings.localUrl, bucket := "results" }

def localArtifact : Artifact := { objectPath := "/out/q.csv", fileName := "q.csv" }

/-- Four bytes in two chunks, with an empty one between them. -/
def cutBody : Body := { chunks := [[105, 100], [], [10, 49]], complete := true }

def cutWorld : World Peer :=
  { remote := { responses := [.answered 200 cutBody], requests := [], token := "" }
    cancelled := false
    clock := 0
    calls := []
    staging := .fresh ["tmp"] }

/-- A destination that has room for the first byte of the second chunk only. -/
def fullDestination : Destination :=
  { refusesAfter := some (1, "No space left on device (os error 28)")
    refusesFlush := none
    takesOfRefused := 1 }

theorem download_wholeOrGone_cutBody :
    (∃ transfer,
      (localStore.download .willing "/out/q.csv" cutWorld.remote).1 = some transfer ∧
      transfer.received = [105, 100, 10, 49] ∧
      transfer.result = .ok 4 ∧
      ((serviceTo .willing default localStore).fetchArtifact localArtifact cutWorld).1
        = .finished (.ok ()) ∧
      ((serviceTo .willing default localStore).fetchArtifact localArtifact
        cutWorld).2.staging.content? "q.csv" = some [105, 100, 10, 49]) ∧
    (∃ transfer text,
      (localStore.download fullDestination "/out/q.csv" cutWorld.remote).1 = some transfer ∧
      transfer.received <+: [105, 100, 10, 49] ∧
      ((serviceTo fullDestination default localStore).fetchArtifact localArtifact cutWorld).1
        = .finished (.error (.download "/out/q.csv" (.error (.storage text)))) ∧
      ((serviceTo fullDestination default localStore).fetchArtifact localArtifact
        cutWorld).2.staging.content? "q.csv" = none) := by
  have room : cutWorld.staging.Takes localArtifact.fileName :=
    Staging.creates_iff_takes.mp ⟨by decide, _, rfl⟩
  constructor
  · obtain ⟨transfer, came, transfers, stages⟩ :=
      download_wholeOrGone default localStore .willing localArtifact cutWorld 200 cutBody rfl
    have takes : Destination.willing.Takes cutBody.chunks := ⟨fun _ _ => rfl, rfl⟩
    obtain ⟨count, counted⟩ := transfers.counted.mpr ⟨by decide, rfl, takes⟩
    obtain ⟨received, same⟩ := transfers.whole count counted
    obtain ⟨fetched, holds⟩ := (stages room).whole count counted
    subst same
    exact ⟨transfer, came, received, counted, fetched, holds.content⟩
  · obtain ⟨transfer, came, transfers, stages⟩ :=
      download_wholeOrGone default localStore fullDestination localArtifact cutWorld 200 cutBody rfl
    cases result : transfer.result with
    | ok count =>
        obtain ⟨_, _, takes⟩ := transfers.counted.mp ⟨count, result⟩
        exact absurd (takes.each 1 (by decide)) (by decide)
    | error error =>
        obtain ⟨text, told⟩ := transfers.failed error result
        obtain ⟨fetched, _, gone⟩ := (stages room).gone error result
        rw [told] at fetched
        exact ⟨transfer, text, came, transfers.beginning, fetched, gone⟩

end RemoteQuery.Http
