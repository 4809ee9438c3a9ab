import RemoteQuery.Http.Store
import RemoteQuery.Proofs.Artifact
import RemoteQuery.Proofs.Text.Search
import RemoteQuery.Proofs.Url.Path
set_option autoImplicit false

/-! Where a result is read from.  The folder of the settings is written into the location
that the service is told, into the path of the artifact, and into the URL that is asked
for.  The three agree exactly for folders whose segments all stand in a path as they are. -/

namespace RemoteQuery

namespace Url

theorem eq_ok_of_toOption {found : Except Fault Reference} {reference : Reference}
    (same : found.toOption = some reference) : found = .ok reference := by
  cases found with
  | error fault => cases same
  | ok given => exact congrArg Except.ok (Option.some.inj same)

private theorem pathText_splitAt (text : List Char) :
    pathText (Text.splitAt '/' text) = '/' :: text := by
  induction text with
  | nil => rfl
  | cons c rest inductionHypothesis =>
      rw [Text.splitAt]
      by_cases slash : c = '/'
      · rw [if_pos slash, pathText_cons, inductionHypothesis, slash]
        rfl
      · rw [if_neg slash]
        cases pieces : Text.splitAt '/' rest with
        | nil => exact (Text.splitAt_ne_nil '/' rest pieces).elim
        | cons piece others =>
            rw [pieces, pathText_cons] at inductionHypothesis
            rw [pathText_cons, List.cons_append, (List.cons.inj inductionHypothesis).2]

def filled (pieces : List (List Char)) : List (List Char) :=
  pieces.filter fun piece => !piece.isEmpty

theorem mem_filled {piece : List Char} {pieces : List (List Char)} :
    piece ∈ filled pieces ↔ piece ∈ pieces ∧ piece ≠ [] := by
  rw [filled, List.mem_filter, Bool.not_eq_true', List.isEmpty_eq_false_iff]

private theorem filled_cons_nil (others : List (List Char)) :
    filled ([] :: others) = filled others :=
  List.filter_cons_of_neg (by decide)

private theorem filled_cons {piece : List Char} (nonempty : piece ≠ [])
    (others : List (List Char)) :
    filled (piece :: others) = piece :: filled others :=
  List.filter_cons_of_pos (Bool.not_eq_true' _ ▸ List.isEmpty_eq_false_iff.mpr nonempty)

theorem length_pathText_filled (pieces : List (List Char)) :
    (pathText (filled pieces)).length ≤ (pathText pieces).length ∧
      ([] ∈ pieces → (pathText (filled pieces)).length < (pathText pieces).length) := by
  induction pieces with
  | nil => exact ⟨Nat.le_refl _, nofun⟩
  | cons piece others inductionHypothesis =>
      obtain ⟨bound, strict⟩ := inductionHypothesis
      have whole := length_pathText_cons piece others
      by_cases empty : piece = []
      · rw [empty, filled_cons_nil, ← empty]
        exact ⟨by omega, fun _ => by omega⟩
      · have kept := length_pathText_cons piece (filled others)
        rw [filled_cons empty]
        refine ⟨by omega, fun member => ?_⟩
        rcases List.mem_cons.mp member with here | behind
        · exact (empty here.symm).elim
        · have shorter := strict behind
          omega

end Url

namespace Http.Store

private theorem pathSegments_key (key : List Char) :
    pathSegments (String.ofList ('/' :: key)) = Url.filled (Text.splitAt '/' key) := by
  rw [pathSegments, String.toList_ofList, Text.splitAt, if_pos rfl]
  exact Url.filled_cons_nil _

theorem objectUrl_segments {store : Store} (root : store.endpoint.segments = [[]])
    (bucket : Url.StandsInPath store.bucket.toList) (key : List Char) :
    (store.objectUrl (String.ofList ('/' :: key))).segments
      = (Url.filled (Text.splitAt '/' key)).foldl Url.pushSegment
          (Url.encoded [store.bucket.toList]) := by
  rw [objectUrl, pathSegments_key, root, List.foldl_cons, Url.pushSegment_standing _ bucket]
  rfl

/-- The path that is asked for is bucket and key exactly if every segment of the key
stands in a path. -/
theorem objectUrl_path_iff {store : Store} (root : store.endpoint.segments = [[]])
    (bucket : Url.StandsInPath store.bucket.toList) (key : List Char) :
    Url.decode (Url.pathText (store.objectUrl (String.ofList ('/' :: key))).segments)
        = Text.bytesOf (Url.pathText (store.bucket.toList :: Text.splitAt '/' key)) ↔
      ∀ piece, piece ∈ Text.splitAt '/' key → Url.StandsInPath piece := by
  rw [objectUrl_segments root bucket]
  constructor
  · intro same piece member
    obtain ⟨after, pushed, bound, strict⟩ :=
      @Url.foldl_encoded (Url.filled (Text.splitAt '/' key)) [store.bucket.toList]
        fun piece found => (Url.mem_filled.mp found).2
    obtain ⟨filledBound, filledStrict⟩ := Url.length_pathText_filled (Text.splitAt '/' key)
    rw [pushed, Url.decode_pathText_encoded] at same
    have lengths := congrArg List.length (Text.bytesOf_injective same)
    have parts := Url.length_pathText_cons store.bucket.toList (Text.splitAt '/' key)
    have front := Url.length_pathText_cons store.bucket.toList []
    have none : (Url.pathText []).length = 0 := rfl
    apply Decidable.byContradiction
    intro unfit
    by_cases empty : piece = []
    · have shorter := filledStrict (empty ▸ member)
      omega
    · have shorter := strict piece (Url.mem_filled.mpr ⟨member, empty⟩) unfit
      omega
  · intro stand
    have whole : Url.filled (Text.splitAt '/' key) = Text.splitAt '/' key := by
      apply List.filter_eq_self.mpr
      intro piece member
      rw [List.isEmpty_eq_false_iff.mpr (stand piece member).nonempty]
      rfl
    have closed := Url.append_encoded_ne_root [] bucket.nonempty
    rw [List.nil_append] at closed
    rw [whole, Url.foldl_standing _ closed stand, ← Url.encoded_append, Url.decode_pathText_encoded]
    rfl

end Http.Store

/-! ### Locating a result -/

namespace Artifact

/-- A name that a result file can have below a folder. -/
structure IsFileName (name : List Char) : Prop where
  stands : Url.StandsInPath name
  noSlash : '/' ∉ name
  noColon : ':' ∉ name

theorem IsFileName.usable {name : List Char} (named : IsFileName name) : Usable name :=
  ⟨named.stands.nonempty, named.noColon⟩

end Artifact

namespace Settings

private theorem bucket_of_validate {settings : Settings} (valid : settings.validate = .ok ()) :
    settings.storage.bucket.toList ≠ [] := by
  intro empty
  have blank : Text.isBlankText settings.storage.bucket = true := by
    rw [Text.isBlankText, empty]
    rfl
  rw [validate] at valid
  cases database : requireText settings.engine.database "ATHENA_DB" with
  | error error =>
      rw [database] at valid
      cases valid
  | ok done =>
      rw [database, requireText, requireText, blank] at valid
      cases valid

private theorem bucket_stands {bucket : List Char} (nonempty : bucket ≠ [])
    (plain : ∀ c, c ∈ bucket → c ∉ ['/', '.', '\t', '\n', '\r']) : Url.StandsInPath bucket := by
  have noDot : '.' ∉ bucket := fun member => plain '.' member (by decide)
  refine ⟨nonempty, ?_, ?_, ?_⟩
  · exact fun same => noDot (same ▸ List.mem_cons_self)
  · exact fun same => noDot (same ▸ List.mem_cons_self)
  · intro c member
    apply Bool.eq_false_iff.mpr
    intro ignored
    apply plain c member
    simp only [Url.isIgnored, Bool.or_eq_true, beq_iff_eq] at ignored
    rcases ignored with (same | same) | same <;>
      · rw [same]
        decide

private theorem store_of_valid {settings : Settings} {endpoint : String} {url : Url}
    (valid : settings.validate = .ok ()) (configured : settings.storeEndpoint = .ok endpoint)
    (web : Url.read endpoint = .ok (.web url)) :
    (settings.storeEndpoint >>= fun endpoint =>
        Http.Store.ofText endpoint settings.storage.bucket)
      = .ok { endpoint := url, bucket := settings.storage.bucket } := by
  have named : settings.storage.bucket.isEmpty = false :=
    Bool.eq_false_iff.mpr fun empty =>
      bucket_of_validate valid (by rw [String.isEmpty_iff.mp empty]; rfl)
  have read : Http.readEndpoint "S3" endpoint = .ok url := by
    rw [Http.readEndpoint, web]
  rw [configured]
  change Http.Store.ofText endpoint settings.storage.bucket = _
  rw [Http.Store.ofText, read]
  exact if_neg (Bool.eq_false_iff.mp named)

private theorem key_of_reported {settings : Settings} {fileName key : String}
    (reported : settings.outputLocation ++ "/" ++ fileName
      = "s3://" ++ settings.storage.bucket ++ "/" ++ key) :
    key.toList = Text.dropAroundWhile Artifact.isSlash settings.storage.outputFolder.toList
      ++ '/' :: fileName.toList := by
  have texts := congrArg String.toList reported
  simp only [String.toList_append, outputLocation_toList, List.append_assoc] at texts
  have behind := List.append_cancel_left (List.append_cancel_left texts)
  exact ((List.cons.inj behind).2).symm

private theorem ofUri_reported {settings : Settings} {fileName : String}
    (named : Artifact.IsFileName fileName.toList) :
    Artifact.ofUri (settings.outputLocation ++ "/" ++ fileName) settings.storage.outputFolder
      = .ok {
          objectPath := String.ofList
            (Artifact.pathIn settings.storage.outputFolder.toList fileName.toList)
          fileName := fileName } := by
  rw [Artifact.ofUri_of_usable (endsIn_below _ named.usable named.noSlash) named.usable,
    Artifact.fileIn, String.ofList_toList]

theorem located_path_iff {settings : Settings} {url : Url} {fileName key : String}
    (valid : settings.validate = .ok ()) (root : url.segments = [[]])
    (bucketPlain : ∀ c, c ∈ settings.storage.bucket.toList → c ∉ ['/', '.', '\t', '\n', '\r'])
    (named : Artifact.IsFileName fileName.toList)
    (inFolder : ∃ c, c ∈ settings.storage.outputFolder.toList ∧ Artifact.isSlash c = false)
    (reported : settings.outputLocation ++ "/" ++ fileName
      = "s3://" ++ settings.storage.bucket ++ "/" ++ key) :
    Url.decode (Url.pathText (Http.Store.objectUrl
          { endpoint := url, bucket := settings.storage.bucket }
          (String.ofList (Artifact.pathIn settings.storage.outputFolder.toList
            fileName.toList))).segments)
        = Text.encode ("/" ++ settings.storage.bucket ++ "/" ++ key) ↔
      ∀ piece, piece ∈ Text.splitAt '/'
          (Text.dropAroundWhile Artifact.isSlash settings.storage.outputFolder.toList) →
        Url.StandsInPath piece := by
  have bucket := bucket_stands (bucket_of_validate valid) bucketPlain
  have path := Artifact.pathIn_folder inFolder fileName.toList
  have sameKey := key_of_reported reported
  have whole : Text.encode ("/" ++ settings.storage.bucket ++ "/" ++ key)
      = Text.bytesOf (Url.pathText (settings.storage.bucket.toList
          :: Text.splitAt '/' key.toList)) := by
    rw [Text.encode_eq_bytesOf, Url.pathText_cons, Url.pathText_splitAt]
    simp only [String.toList_append, List.append_assoc]
    rfl
  have pieces : Text.splitAt '/' key.toList
      = Text.splitAt '/'
          (Text.dropAroundWhile Artifact.isSlash settings.storage.outputFolder.toList)
        ++ [fileName.toList] := by
    rw [sameKey, Text.splitAt_append, Text.splitAt_of_absent named.noSlash]
  have asked := @Http.Store.objectUrl_path_iff
    { endpoint := url, bucket := settings.storage.bucket } root bucket key.toList
  rw [path, ← sameKey, whole, asked, pieces]
  constructor
  · intro stand piece member
    exact stand piece (List.mem_append_left _ member)
  · intro stand piece member
    rcases List.mem_append.mp member with inside | last
    · exact stand piece inside
    · rw [List.mem_singleton.mp last]
      exact named.stands

/-- A result below the location that the service was told is located, and it is asked for
by bucket and key exactly if every segment of the folder stands in a path.  With any other
segment in its folder the store is asked for another object. -/
theorem objectUrl_reads_reported (settings : Settings) (endpoint : String) (url : Url)
    (fileName key : String) (valid : settings.validate = .ok ())
    (configured : settings.storeEndpoint = .ok endpoint)
    (web : Url.read endpoint = .ok (.web url)) (root : url.segments = [[]])
    (bucketPlain : ∀ c, c ∈ settings.storage.bucket.toList → c ∉ ['/', '.', '\t', '\n', '\r'])
    (named : Artifact.IsFileName fileName.toList)
    (inFolder : ∃ c, c ∈ settings.storage.outputFolder.toList ∧ Artifact.isSlash c = false)
    (reported : settings.outputLocation ++ "/" ++ fileName
      = "s3://" ++ settings.storage.bucket ++ "/" ++ key) :
    ∃ store artifact,
      (settings.storeEndpoint >>= fun endpoint =>
        Http.Store.ofText endpoint settings.storage.bucket) = .ok store ∧
      Artifact.ofUri (settings.outputLocation ++ "/" ++ fileName) settings.storage.outputFolder
        = .ok artifact ∧
      (Url.decode (Url.pathText (store.objectUrl artifact.objectPath).segments)
          = Text.encode ("/" ++ settings.storage.bucket ++ "/" ++ key) ↔
        ∀ piece, piece ∈ Text.splitAt '/'
            (Text.dropAroundWhile Artifact.isSlash settings.storage.outputFolder.toList) →
          Url.StandsInPath piece) :=
  ⟨_, _, store_of_valid valid configured web, ofUri_reported named,
    located_path_iff valid root bucketPlain named inFolder reported⟩

def localUrl : Url :=
  { scheme := "http".toList, userInfo := [], host := "localhost".toList, port := some 4566
    segments := [[]], query := none, fragment := none }

private theorem locatedSettings_bucket (outputFolder : String) :
    ∀ c, c ∈ (locatedSettings outputFolder).storage.bucket.toList →
      c ∉ ['/', '.', '\t', '\n', '\r'] := by
  have plain : ("query-results".toList.all fun c =>
      !(['/', '.', '\t', '\n', '\r'].contains c)) = true := by decide
  intro c member special
  have absent := List.all_eq_true.mp plain c member
  rw [List.contains_iff_mem.mpr special] at absent
  cases absent

private theorem validate_locatedSettings {outputFolder : String}
    (visible : Text.isBlankText outputFolder = false) :
    (locatedSettings outputFolder).validate = .ok () := by
  have required {text variableName : String} (visible : Text.isBlankText text = false) :
      requireText text variableName = .ok () :=
    if_neg (Bool.eq_false_iff.mp visible)
  have database : requireText (locatedSettings outputFolder).engine.database "ATHENA_DB" = .ok () :=
    required (show Text.isBlankText "analytics" = false by decide)
  have bucket : requireText (locatedSettings outputFolder).storage.bucket "ATHENA_S3_BUCKET"
      = .ok () :=
    required (show Text.isBlankText "query-results" = false by decide)
  have folder : requireText (locatedSettings outputFolder).storage.outputFolder
      "ATHENA_OUTPUT_FOLDER" = .ok () :=
    required visible
  have factor : isBackoffFactor (locatedSettings outputFolder).poll.backoffFactor = true := by
    change isBackoffFactor (Decimal.ofInt 1) = true
    decide
  rw [validate, database, bucket, folder, factor]
  rfl

private theorem read_localUrl : Url.read "http://localhost:4566" = .ok (.web localUrl) :=
  Url.eq_ok_of_toOption (by decide +kernel)

theorem objectUrl_reads_reported_spaced :
    ∃ store artifact,
      ((locatedSettings "/out put/é").storeEndpoint >>= fun endpoint =>
        Http.Store.ofText endpoint "query-results") = .ok store ∧
      Artifact.ofUri ((locatedSettings "/out put/é").outputLocation ++ "/" ++ "50%.csv")
        "/out put/é" = .ok artifact ∧
      Url.decode (Url.pathText (store.objectUrl artifact.objectPath).segments)
        = Text.encode "/query-results/out put/é/50%.csv" := by
  obtain ⟨store, artifact, opened, located, asked⟩ :=
    objectUrl_reads_reported (locatedSettings "/out put/é") "http://localhost:4566" localUrl
      "50%.csv" "out put/é/50%.csv" (validate_locatedSettings (by decide)) rfl read_localUrl rfl
      (locatedSettings_bucket _) ⟨by decide, by decide, by decide⟩ ⟨'o', by decide, by decide⟩ rfl
  have stand : ∀ piece, piece ∈ ["out put".toList, "é".toList] → Url.StandsInPath piece := by
    decide
  exact ⟨store, artifact, opened, located, asked.mpr stand⟩

/-- An empty segment inside the folder does not arrive. -/
theorem objectUrl_misses_reported :
    ¬ ∀ (settings : Settings) (endpoint : String) (url : Url) (fileName key : String),
      settings.validate = .ok () →
      settings.storeEndpoint = .ok endpoint →
      Url.read endpoint = .ok (.web url) → url.segments = [[]] →
      (∀ c, c ∈ settings.storage.bucket.toList → c ∉ ['/', '.', '\t', '\n', '\r']) →
      Artifact.IsFileName fileName.toList →
      (∃ c, c ∈ settings.storage.outputFolder.toList ∧ Artifact.isSlash c = false) →
      settings.outputLocation ++ "/" ++ fileName
        = "s3://" ++ settings.storage.bucket ++ "/" ++ key →
      ∃ store artifact,
        (settings.storeEndpoint >>= fun endpoint =>
          Http.Store.ofText endpoint settings.storage.bucket) = .ok store ∧
        Artifact.ofUri (settings.outputLocation ++ "/" ++ fileName)
          settings.storage.outputFolder = .ok artifact ∧
        Url.decode (Url.pathText (store.objectUrl artifact.objectPath).segments)
          = Text.encode ("/" ++ settings.storage.bucket ++ "/" ++ key) := by
  intro agrees
  have valid : (locatedSettings "a//b").validate = .ok () := validate_locatedSettings (by decide)
  have bucketPlain := locatedSettings_bucket "a//b"
  have named : Artifact.IsFileName "q.csv".toList := ⟨by decide, by decide, by decide⟩
  have inFolder : ∃ c, c ∈ (locatedSettings "a//b").storage.outputFolder.toList ∧
      Artifact.isSlash c = false := ⟨'a', by decide, by decide⟩
  have reported : (locatedSettings "a//b").outputLocation ++ "/" ++ "q.csv"
      = "s3://" ++ (locatedSettings "a//b").storage.bucket ++ "/" ++ "a//b/q.csv" := rfl
  obtain ⟨store, artifact, opened, located, same⟩ :=
    agrees (locatedSettings "a//b") "http://localhost:4566" localUrl "q.csv" "a//b/q.csv" valid rfl
      read_localUrl rfl bucketPlain named inFolder reported
  rw [store_of_valid valid rfl read_localUrl] at opened
  rw [ofUri_reported named] at located
  rw [← Except.ok.inj opened, ← Except.ok.inj located] at same
  have stand := (located_path_iff valid rfl bucketPlain named inFolder reported).mp same
  exact absurd (stand [] (by decide)) (by decide)

end Settings

end RemoteQuery
