import RemoteQuery.Artifact
import RemoteQuery.Proofs.Text.Blank
import RemoteQuery.Settings
set_option autoImplicit false

/-! Where a result is located.  The last part of a URI, slashes behind it apart, names the
file, and the folder counts without the slashes around it.  So locating a path that was
located leads to itself, and a result below the location that the service is told is found
under the bucket by just that location. -/

namespace RemoteQuery

namespace Artifact

variable {uri name front slashes : List Char}

/-! ### The name of a file -/

/-- The name that a URI ends in: what stands behind its last slash, or all of it if it has
none, without the slashes at its end. -/
inductive EndsIn : List Char → List Char → Prop where
  | alone {name slashes : List Char} (noSlash : '/' ∉ name) (only : ∀ c, c ∈ slashes → c = '/') :
      EndsIn (name ++ slashes) name
  | behind (front : List Char) {name slashes : List Char} (filled : name ≠ [])
      (noSlash : '/' ∉ name) (only : ∀ c, c ∈ slashes → c = '/') :
      EndsIn (front ++ '/' :: name ++ slashes) name

theorem isSlash_iff (c : Char) : isSlash c = true ↔ c = '/' := beq_iff_eq

theorem not_isSlash_iff (c : Char) : isSlash c = false ↔ c ≠ '/' := beq_eq_false_iff_ne

private theorem not_isSlash_of_mem (noSlash : '/' ∉ name) {c : Char} (member : c ∈ name) :
    isSlash c = false := by
  rw [not_isSlash_iff]
  intro slash
  exact noSlash (slash ▸ member)

private theorem isSlash_of_only (only : ∀ c, c ∈ slashes → c = '/') :
    ∀ c, c ∈ slashes → isSlash c = true :=
  fun c member => (isSlash_iff c).mpr (only c member)

private theorem takeWhile_noSlash (noSlash : '/' ∉ name) (rest : List Char) :
    (name.reverse ++ rest).takeWhile (fun c => !isSlash c)
      = name.reverse ++ rest.takeWhile fun c => !isSlash c := by
  apply List.takeWhile_append_of_pos
  intro c member
  rw [not_isSlash_of_mem noSlash (List.mem_reverse.mp member)]
  rfl

private theorem lastSegment_alone (noSlash : '/' ∉ name) (only : ∀ c, c ∈ slashes → c = '/') :
    lastSegment (name ++ slashes) = name := by
  have whole := takeWhile_noSlash noSlash []
  rw [List.append_nil, List.takeWhile_nil, List.append_nil] at whole
  rw [lastSegment, Text.dropEndWhile_of_ended _ (isSlash_of_only only), whole, List.reverse_reverse]
  intro last found
  exact not_isSlash_of_mem noSlash (List.mem_of_getLast? found)

private theorem lastSegment_behind (front : List Char) (filled : name ≠ []) (noSlash : '/' ∉ name)
    (only : ∀ c, c ∈ slashes → c = '/') :
    lastSegment (front ++ '/' :: name ++ slashes) = name := by
  have turned : (front ++ '/' :: name).reverse = name.reverse ++ '/' :: front.reverse := by simp
  rw [lastSegment, Text.dropEndWhile_of_ended _ (isSlash_of_only only), turned,
    takeWhile_noSlash noSlash, List.takeWhile_cons_of_neg (by decide), List.append_nil,
    List.reverse_reverse]
  intro last found
  rw [← List.singleton_append, ← List.append_assoc] at found
  exact not_isSlash_of_mem noSlash (Text.mem_of_getLast?_append filled found)

theorem EndsIn.lastSegment_eq (ends : EndsIn uri name) : lastSegment uri = name := by
  cases ends with
  | alone noSlash only => exact lastSegment_alone noSlash only
  | behind front filled noSlash only => exact lastSegment_behind front filled noSlash only

private theorem lastSegment_endsIn (uri : List Char) : EndsIn uri (lastSegment uri) := by
  obtain ⟨slashes, same, dropped⟩ := Text.dropEndWhile_append isSlash uri
  have ended := Text.dropEndWhile_ended isSlash uri
  have only : ∀ c, c ∈ slashes → c = '/' := fun c member => (isSlash_iff c).mp (dropped c member)
  generalize keeps : Text.dropEndWhile isSlash uri = kept at same ended
  have last : lastSegment uri = (kept.reverse.takeWhile fun c => !isSlash c).reverse := by
    rw [lastSegment, keeps]
  have noSlash : '/' ∉ lastSegment uri := by
    rw [last, List.mem_reverse]
    intro member
    exact absurd (List.all_eq_true.mp List.all_takeWhile _ member) (by decide)
  have parted : (kept.reverse.dropWhile fun c => !isSlash c).reverse ++ lastSegment uri = kept := by
    rw [last, ← List.reverse_append, List.takeWhile_append_dropWhile, List.reverse_reverse]
  have stop := List.head?_dropWhile_not (fun c => !isSlash c) kept.reverse
  generalize lastSegment uri = name at noSlash parted
  rw [← same]
  cases behind : kept.reverse.dropWhile fun c => !isSlash c with
  | nil =>
      rw [behind, List.reverse_nil, List.nil_append] at parted
      rw [← parted]
      exact .alone noSlash only
  | cons c others =>
      rw [behind, List.head?_cons] at stop
      have slash : c = '/' := by simpa [isSlash] using stop
      have whole : others.reverse ++ '/' :: name = kept := by
        rw [← parted, behind, slash, List.reverse_cons, List.append_assoc, List.singleton_append]
      have filled : name ≠ [] := by
        intro empty
        have slashLast := ended '/' (by rw [← whole, empty, List.getLast?_concat])
        cases slashLast
      rw [← whole]
      exact .behind others.reverse filled noSlash only

theorem EndsIn.noSlash (ends : EndsIn uri name) : '/' ∉ name := by
  cases ends with
  | alone noSlash only => exact noSlash
  | behind front filled noSlash only => exact noSlash

/-! ### Locating a file -/

/-- A name that a file can be located by. -/
structure Usable (name : List Char) : Prop where
  filled : name ≠ []
  noColon : ':' ∉ name

def fileIn (folder : String) (name : List Char) : Artifact :=
  { objectPath := String.ofList (pathIn folder.toList name), fileName := String.ofList name }

theorem ofUri_of_usable {uri folder : String} (ends : EndsIn uri.toList name)
    (usable : Usable name) : ofUri uri folder = .ok (fileIn folder name) := by
  have accepted : ¬ (name.isEmpty || name.contains ':') = true := by
    simpa using And.intro usable.filled usable.noColon
  rw [ofUri, ends.lastSegment_eq]
  exact if_neg accepted

private theorem ofUri_of_unusable {uri folder : String} (ends : EndsIn uri.toList name)
    (unusable : ¬ Usable name) :
    ofUri uri folder = .error (.internal s!"Result location {uri} has no file name") := by
  have refused : (name.isEmpty || name.contains ':') = true := by
    by_cases filled : name = []
    · simp [filled]
    · by_cases colon : ':' ∈ name
      · simp [colon]
      · exact absurd ⟨filled, colon⟩ unusable
  rw [ofUri, ends.lastSegment_eq]
  exact if_pos refused

theorem ofUri_eq_ok_iff {uri folder : String} {artifact : Artifact} :
    ofUri uri folder = .ok artifact ↔
      ∃ name, EndsIn uri.toList name ∧ Usable name ∧ artifact = fileIn folder name := by
  constructor
  · intro located
    have ends := lastSegment_endsIn uri.toList
    by_cases usable : Usable (lastSegment uri.toList)
    · rw [ofUri_of_usable ends usable] at located
      exact ⟨_, ends, usable, (Except.ok.inj located).symm⟩
    · rw [ofUri_of_unusable ends usable] at located
      cases located
  · rintro ⟨name, ends, usable, rfl⟩
    exact ofUri_of_usable ends usable

/-- Why a descriptor leads to no file: none is reported, or its name cannot be used. -/
inductive Nowhere (descriptor : Descriptor) : String → Prop where
  | missing (unreported : descriptor.resultLocation = none) :
      Nowhere descriptor (s!"Query {descriptor.executionId} ({descriptor.state.name}) "
        ++ "reported no result location")
  | unnamed {uri : String} {name : List Char} (reported : descriptor.resultLocation = some uri)
      (ends : EndsIn uri.toList name) (unusable : ¬ Usable name) :
      Nowhere descriptor s!"Result location {uri} has no file name"

inductive IsOf (descriptor : Descriptor) (folder : String) : Artifact → Prop where
  | reported {uri : String} {name : List Char} (reported : descriptor.resultLocation = some uri)
      (ends : EndsIn uri.toList name) (usable : Usable name) :
      IsOf descriptor folder (fileIn folder name)

theorem ofDescriptor_eq_error_iff {descriptor : Descriptor} {folder : String}
    {error : QueryError} :
    ofDescriptor descriptor folder = .error error ↔
      ∃ text, error = .internal text ∧ Nowhere descriptor text := by
  constructor
  · intro failed
    rw [ofDescriptor] at failed
    cases reported : descriptor.resultLocation with
    | none =>
        rw [reported] at failed
        cases failed
        exact ⟨_, rfl, .missing reported⟩
    | some uri =>
        rw [reported] at failed
        have ends := lastSegment_endsIn uri.toList
        by_cases usable : Usable (lastSegment uri.toList)
        · simp only [ofUri_of_usable ends usable] at failed
          cases failed
        · simp only [ofUri_of_unusable ends usable] at failed
          cases failed
          exact ⟨_, rfl, .unnamed reported ends usable⟩
  · rintro ⟨text, rfl, nowhere⟩
    cases nowhere with
    | missing unreported => rw [ofDescriptor, unreported]
    | unnamed reported ends unusable =>
        rw [ofDescriptor, reported]
        exact ofUri_of_unusable ends unusable

theorem ofDescriptor_eq_ok_iff {descriptor : Descriptor} {folder : String}
    {artifact : Artifact} :
    ofDescriptor descriptor folder = .ok artifact ↔ IsOf descriptor folder artifact := by
  constructor
  · intro located
    rw [ofDescriptor] at located
    cases reported : descriptor.resultLocation with
    | none =>
        rw [reported] at located
        cases located
    | some uri =>
        rw [reported] at located
        obtain ⟨name, ends, usable, rfl⟩ := ofUri_eq_ok_iff.mp located
        exact .reported reported ends usable
  · rintro ⟨reported, ends, usable⟩
    rw [ofDescriptor, reported]
    exact ofUri_of_usable ends usable

/-! ### The path of a file -/

theorem pathIn_of_inner {folder inner : List Char} (core : Text.Inner isSlash folder inner)
    (name : List Char) :
    pathIn folder name = if inner = [] then '/' :: name else '/' :: (inner ++ '/' :: name) := by
  rw [pathIn, core.dropAroundWhile_eq]
  by_cases empty : inner = []
  · simp [empty]
  · simp [empty]

theorem pathIn_folder {folder : List Char} (inFolder : ∃ c, c ∈ folder ∧ isSlash c = false)
    (name : List Char) :
    pathIn folder name = '/' :: (Text.dropAroundWhile isSlash folder ++ '/' :: name) := by
  obtain ⟨c, member, notSlash⟩ := inFolder
  rw [pathIn_of_inner (Text.dropAroundWhile_inner isSlash folder)]
  exact if_neg (List.ne_nil_of_mem (Text.mem_dropAroundWhile member notSlash))

def padded (left right : Nat) (folder : String) : String :=
  String.ofList (List.replicate left '/' ++ folder.toList ++ List.replicate right '/')

private theorem inner_padded {folder : String} {inner : List Char}
    (core : Text.Inner isSlash folder.toList inner) (left right : Nat) :
    Text.Inner isSlash (padded left right folder).toList inner := by
  obtain ⟨⟨front, back, same, slashesFront, slashesBack⟩, first, last⟩ := core
  refine ⟨⟨List.replicate left '/' ++ front, back ++ List.replicate right '/', ?_, ?_, ?_⟩,
    first, last⟩
  · simp [padded, same]
  · intro c member
    rcases List.mem_append.mp member with outside | inside
    · rw [(List.mem_replicate.mp outside).2]
      rfl
    · exact slashesFront c inside
  · intro c member
    rcases List.mem_append.mp member with inside | outside
    · exact slashesBack c inside
    · rw [(List.mem_replicate.mp outside).2]
      rfl

private theorem fileIn_padded (left right : Nat) (folder : String) (name : List Char) :
    fileIn (padded left right folder) name = fileIn folder name := by
  have core := Text.dropAroundWhile_inner isSlash folder.toList
  rw [fileIn, fileIn, pathIn_of_inner core, pathIn_of_inner (inner_padded core left right)]

private theorem endsIn_pathIn {folder name : List Char} (usable : Usable name)
    (noSlash : '/' ∉ name) :
    EndsIn (pathIn folder name) name := by
  have ends (front : List Char) : EndsIn (front ++ '/' :: name) name := by
    rw [← List.append_nil (front ++ '/' :: name)]
    exact .behind front usable.filled noSlash nofun
  rw [pathIn_of_inner (Text.dropAroundWhile_inner isSlash folder)]
  split
  · exact ends []
  · exact ends ('/' :: Text.dropAroundWhile isSlash folder)

/-- What locating a URI in a folder gives.  The name is the one that the URI ends in, the
path puts it behind the folder without the slashes around it, and the path is located at
itself, whatever slashes stand around the folder. -/
structure Locates (uri folder : String) (artifact : Artifact) : Prop where
  named : EndsIn uri.toList artifact.fileName.toList
  noSlash : '/' ∉ artifact.fileName.toList
  path : ∃ inner, Text.Inner isSlash folder.toList inner ∧
    artifact.objectPath.toList
      = if inner = [] then '/' :: artifact.fileName.toList
        else '/' :: (inner ++ '/' :: artifact.fileName.toList)
  again : ∀ left right, ofUri artifact.objectPath (padded left right folder) = .ok artifact

private theorem fileIn_locates {uri folder : String} (ends : EndsIn uri.toList name)
    (usable : Usable name) : Locates uri folder (fileIn folder name) where
  named := by
    rw [fileIn, String.toList_ofList]
    exact ends
  noSlash := by
    rw [fileIn, String.toList_ofList]
    exact ends.noSlash
  path := by
    have core := Text.dropAroundWhile_inner isSlash folder.toList
    refine ⟨_, core, ?_⟩
    rw [fileIn, String.toList_ofList, String.toList_ofList, pathIn_of_inner core]
  again := by
    intro left right
    have itself : EndsIn (fileIn folder name).objectPath.toList name := by
      rw [fileIn, String.toList_ofList]
      exact endsIn_pathIn usable ends.noSlash
    rw [ofUri_of_usable itself usable, fileIn_padded]

end Artifact

namespace Settings

theorem outputLocation_toList (settings : Settings) :
    settings.outputLocation.toList
      = "s3://".toList ++ (settings.storage.bucket.toList ++ '/' ::
          Text.dropAroundWhile Artifact.isSlash settings.storage.outputFolder.toList) := by
  change ("s3://" ++ settings.storage.bucket ++ "/" ++ String.ofList _).toList = _
  simp only [String.toList_append, String.toList_ofList, List.append_assoc]
  rfl

theorem endsIn_below (location : String) {name : String} (usable : Artifact.Usable name.toList)
    (noSlash : '/' ∉ name.toList) :
    Artifact.EndsIn (location ++ "/" ++ name).toList name.toList := by
  have parts : (location ++ "/" ++ name).toList
      = location.toList ++ '/' :: name.toList ++ [] := by
    simp only [String.toList_append, List.append_assoc, List.append_nil]
    rfl
  rw [parts]
  exact .behind _ usable.filled noSlash nofun

theorem fileIn_reported (settings : Settings) (name : String)
    (inFolder : ∃ c, c ∈ settings.storage.outputFolder.toList ∧ c ≠ '/') :
    "s3://" ++ settings.storage.bucket
        ++ (Artifact.fileIn settings.storage.outputFolder name.toList).objectPath
      = settings.outputLocation ++ "/" ++ name := by
  obtain ⟨c, member, notSlash⟩ := inFolder
  have path := Artifact.pathIn_folder ⟨c, member, (Artifact.not_isSlash_iff c).mpr notSlash⟩
    name.toList
  apply String.toList_injective
  simp only [String.toList_append, outputLocation_toList, Artifact.fileIn, String.toList_ofList,
    path, List.append_assoc]
  rfl

def locatedSettings (outputFolder : String) : Settings :=
  { engine := {
      region := "us-east-1", database := "analytics", tablePrefix := "", workGroup := "primary"
      endpoint := some "http://localhost:4566", pretend := false, escapeBindings := false }
    storage := {
      bucket := "query-results", outputFolder := outputFolder, stagingPath := "./storage"
      endpoint := some "http://localhost:4566" }
    poll := {
      intervalMillis := 1000, maxIntervalMillis := 1000, backoffFactor := Decimal.ofInt 1
      timeoutSeconds := 0 }
    logLevel := "info" }

end Settings

/-- A result is located by the name that its URI ends in, if that is not empty and holds no
colon, and not at all otherwise.  Below the location told to the service, the bucket and
the path that is found give the location back. -/
theorem Artifact.locatesCanonically :
    (∀ uri folder, (∃ artifact, ofUri uri folder = .ok artifact) ↔
      ∃ name, EndsIn uri.toList name ∧ name ≠ [] ∧ ':' ∉ name) ∧
    (∀ uri folder artifact, ofUri uri folder = .ok artifact → Locates uri folder artifact) ∧
    (∀ (settings : Settings) (name : String),
      (∃ c, c ∈ settings.storage.outputFolder.toList ∧ c ≠ '/') →
      name.toList ≠ [] → '/' ∉ name.toList → ':' ∉ name.toList →
      ∃ artifact,
        ofUri (settings.outputLocation ++ "/" ++ name) settings.storage.outputFolder
          = .ok artifact ∧
        "s3://" ++ settings.storage.bucket ++ artifact.objectPath
          = settings.outputLocation ++ "/" ++ name) := by
  refine ⟨?_, ?_, ?_⟩
  · intro uri folder
    constructor
    · rintro ⟨artifact, located⟩
      obtain ⟨name, ends, usable, _⟩ := ofUri_eq_ok_iff.mp located
      exact ⟨name, ends, usable.filled, usable.noColon⟩
    · rintro ⟨name, ends, filled, noColon⟩
      exact ⟨_, ofUri_of_usable ends ⟨filled, noColon⟩⟩
  · intro uri folder artifact located
    obtain ⟨name, ends, usable, rfl⟩ := ofUri_eq_ok_iff.mp located
    exact fileIn_locates ends usable
  · intro settings name inFolder filled noSlash noColon
    have usable : Usable name.toList := ⟨filled, noColon⟩
    exact ⟨_, ofUri_of_usable (Settings.endsIn_below _ usable noSlash) usable,
      Settings.fileIn_reported settings name inFolder⟩

theorem Artifact.locatesCanonically_padded :
    Locates "s3://bucket/x//q 1.csv//" "//out//put/"
      { objectPath := "/out//put/q 1.csv", fileName := "q 1.csv" } ∧
    (¬ ∃ artifact, ofUri "s3://" "out" = .ok artifact) ∧
    ∃ artifact,
      ofUri ((Settings.locatedSettings "/out//put/").outputLocation ++ "/" ++ "q 1.csv")
        "/out//put/" = .ok artifact ∧
      "s3://query-results" ++ artifact.objectPath = "s3://query-results/out//put/q 1.csv" := by
  obtain ⟨succeeds, locates, reported⟩ := locatesCanonically
  refine ⟨locates _ _ _ rfl, ?_, ?_⟩
  · intro found
    obtain ⟨name, ends, _, noColon⟩ := (succeeds "s3://" "out").mp found
    have same : "s3:".toList = name := ends.lastSegment_eq
    exact noColon (same ▸ by decide)
  · exact reported (Settings.locatedSettings "/out//put/") "q 1.csv" ⟨'o', by decide, by decide⟩
      (by decide) (by decide) (by decide)

end RemoteQuery
