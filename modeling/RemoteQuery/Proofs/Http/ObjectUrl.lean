import RemoteQuery.Proofs.Http.Store
set_option autoImplicit false

/-! URLs of objects.  The path of an endpoint, without a slash at its end, is followed by
one encoded segment for the bucket and for each filled segment of the path of the object.
No segment runs into another or out of the path, and each is read back as what it was, so
that two objects share a URL only if their paths have the same filled segments. -/

namespace RemoteQuery

namespace Url

/-! ### The path of an endpoint -/

def lessSlash (path : List Char) : List Char :=
  if path.getLast? = some '/' then path.dropLast else path

/-- Segments that end where the next slash is. -/
def Whole (segments : Segments) : Prop := ∀ segment, segment ∈ segments → '/' ∉ segment

private theorem whole_append {first second : Segments} (whole : Whole first)
    (others : Whole second) :
    Whole (first ++ second) := by
  intro segment member
  rcases List.mem_append.mp member with front | back
  · exact whole segment front
  · exact others segment back

private theorem whole_single {segment : List Char} (noSlash : '/' ∉ segment) : Whole [segment] := by
  intro other member
  rw [List.mem_singleton.mp member]
  exact noSlash

private theorem whole_dropLastSegment {segments : Segments} (whole : Whole segments) :
    Whole (dropLastSegment segments) := by
  unfold dropLastSegment
  split
  · split
    · exact whole
    · exact fun segment member => whole segment (List.dropLast_subset segments member)
  · exact nofun

private theorem whole_addSegment {segments : Segments} (whole : Whole segments)
    {segment : List Char}
    (noSlash : '/' ∉ segment) (final : Bool) : Whole (addSegment segments segment final) := by
  have close {left : Segments} (wholeLeft : Whole left) :
      Whole (if final then left ++ [[]] else left) := by
    split
    · exact whole_append wholeLeft (whole_single List.not_mem_nil)
    · exact wholeLeft
  rw [addSegment]
  cases isDoubleDot segment with
  | true => exact close (whole_dropLastSegment whole)
  | false =>
      cases isSingleDot segment with
      | true => exact close whole
      | false => exact whole_append whole (whole_single noSlash)

private theorem whole_segmentsOf {raw : List (List Char)} {segments : Segments}
    (whole : Whole segments) (parts : Whole raw) : Whole (segmentsOf segments raw) := by
  have encoded {piece : List Char} (noSlash : '/' ∉ piece) : '/' ∉ encode inPath piece :=
    not_mem_encode (by decide) fun member => absurd member noSlash
  induction raw generalizing segments with
  | nil => exact whole
  | cons first rest inductionHypothesis =>
      have here := encoded (parts first List.mem_cons_self)
      cases rest with
      | nil => exact whole_addSegment whole here true
      | cons next others =>
          apply inductionHypothesis (whole_addSegment whole here false)
          exact fun piece member => parts piece (List.mem_cons_of_mem first member)

private theorem segments_of_read {text : String} {url : Url} (web : read text = .ok (.web url)) :
    ∃ behind, url.segments = (readTail behind).segments := by
  simp only [read, bind, Except.bind, pure, Except.pure, throw, throwThe, MonadExceptOf.throw]
    at web
  split at web
  · cases web
  · split at web
    · split at web
      · cases web
      · split at web
        · cases web
          exact ⟨_, rfl⟩
        · cases web
    · split at web
      · split at web
        · cases web
        · cases web
      · split at web
        · split at web
          · cases web
          · cases web
        · cases web

theorem whole_of_read {text : String} {url : Url} (web : read text = .ok (.web url)) :
    Whole url.segments := by
  obtain ⟨behind, same⟩ := segments_of_read web
  rw [same]
  exact whole_segmentsOf nofun fun _ => Text.not_mem_of_mem_splitAt

private theorem lessSlash_slash (path : List Char) : lessSlash (path ++ ['/']) = path := by
  rw [lessSlash, List.getLast?_concat, if_pos rfl, List.dropLast_concat]

private theorem popIfEmpty_closed {front : Segments} (filled : front ≠ []) :
    popIfEmpty (front ++ [[]]) = front := by
  have long : 1 < (front ++ [[]]).length := by
    have positive := List.length_pos_of_ne_nil filled
    rw [List.length_append, List.length_singleton]
    omega
  rw [popIfEmpty, List.getLast?_concat, List.dropLast_concat]
  simp only [long, decide_true, Bool.and_self, if_true]

private theorem popIfEmpty_open (front : Segments) {last : List Char} (filled : last ≠ []) :
    popIfEmpty (front ++ [last]) = front ++ [last] := by
  simp [popIfEmpty, filled]

/-- What segments are pushed to: the path of the endpoint without a slash at its end. -/
theorem pathText_base {segments : Segments} (whole : Whole segments)
    (notDoubled : pathText segments ≠ ['/', '/']) :
    pathText (giveWay (popIfEmpty segments)) = lessSlash (pathText segments) := by
  rcases List.eq_nil_or_concat segments with rfl | ⟨front, last, rfl⟩
  · rfl
  · rw [List.concat_eq_append] at whole notDoubled ⊢
    by_cases empty : last = []
    · subst empty
      rw [pathText_append]
      by_cases root : front = []
      · subst root
        rfl
      · have opened : front ≠ [[]] := by
          rintro rfl
          exact notDoubled rfl
        rw [popIfEmpty_closed root, giveWay, if_neg opened]
        exact (lessSlash_slash (pathText front)).symm
    · have opened : front ++ [last] ≠ [[]] := by
        intro root
        have same := congrArg List.getLast? root
        rw [List.getLast?_concat] at same
        exact empty (Option.some.inj same)
      have kept : (pathText (front ++ [last])).getLast? ≠ some '/' := by
        intro slash
        have parts : pathText (front ++ [last]) = (pathText front ++ ['/']) ++ last := by
          rw [pathText_append, pathText_cons, List.append_assoc]
          simp [pathText]
        rw [parts] at slash
        exact whole last (by simp) (Text.mem_of_getLast?_append empty slash)
      rw [popIfEmpty_open front empty, giveWay, if_neg opened, lessSlash, if_neg kept]

/-! ### Encoded segments -/

/-- A text that is put behind a path as it is: no dots that are resolved, no tab and no
line end. -/
structure IsKept (text : List Char) : Prop where
  notDot : text ≠ ['.']
  notDots : text ≠ ['.', '.']
  clean : ∀ c, c ∈ text → c ∉ ['\t', '\n', '\r']

theorem IsKept.stands {text : List Char} (kept : IsKept text) (filled : text ≠ []) :
    StandsInPath text where
  nonempty := filled
  notDot := kept.notDot
  notDots := kept.notDots
  clean := by
    intro c member
    have clean := kept.clean c member
    simp only [List.mem_cons, List.not_mem_nil, or_false, not_or] at clean
    simp [isIgnored, clean]

private theorem whole_encoded (texts : List (List Char)) : Whole (encoded texts) := by
  intro segment member
  obtain ⟨text, _, rfl⟩ := List.mem_map.mp member
  exact not_mem_encode (by decide) fun _ => rfl

theorem encoded_injective {first second : List (List Char)}
    (same : encoded first = encoded second) : first = second :=
  List.map_injective_iff.mpr (fun _ _ => encode_injective percent_inSegment) same

theorem splitAt_pathText {segments : Segments} (whole : Whole segments) :
    Text.splitAt '/' (pathText segments) = [] :: segments := by
  induction segments with
  | nil => rfl
  | cons first others inductionHypothesis =>
      have cut := inductionHypothesis fun segment member =>
        whole segment (List.mem_cons_of_mem first member)
      have noSlash := whole first List.mem_cons_self
      rw [pathText_cons, Text.splitAt, if_pos rfl]
      cases others with
      | nil => rw [pathText, List.flatMap_nil, List.append_nil, Text.splitAt_of_absent noSlash]
      | cons second behind =>
          rw [pathText_cons, Text.splitAt, if_pos rfl] at cut
          rw [pathText_cons, Text.splitAt_append, Text.splitAt_of_absent noSlash,
            (List.cons.inj cut).2]
          rfl

theorem not_mem_pathText_encoded (texts : List (List Char)) {c : Char}
    (delimiter : c ∈ ['?', '#', '\\']) : c ∉ pathText (encoded texts) := by
  have marked : inSegment c = true ∧ isCode c = false ∧ c ≠ '/' := by
    simp only [List.mem_cons, List.not_mem_nil, or_false] at delimiter
    rcases delimiter with rfl | rfl | rfl <;> decide
  intro member
  obtain ⟨segment, inPath, found⟩ := List.mem_flatMap.mp member
  obtain ⟨text, _, rfl⟩ := List.mem_map.mp inPath
  rcases List.mem_cons.mp found with slash | inside
  · exact marked.2.2 slash
  · exact not_mem_encode marked.2.1 (fun _ => marked.1) inside

private theorem decode?_decode_encode (text : List Char) :
    Text.decode? (decode (encode inSegment text)) = some (String.ofList text) := by
  rw [decode_encode percent_inSegment, ← Text.encode_ofList, Text.decode?_encode]

/-- URLs that differ in their segments only are written alike only if their paths are. -/
theorem pathText_of_written {url : Url} {first second : Segments}
    (same : { url with segments := first }.written = { url with segments := second }.written) :
    pathText first = pathText second := by
  have texts := String.ofList_injective same
  simp only [text] at texts
  exact List.append_cancel_left (List.append_cancel_right (List.append_cancel_right texts))

end Url

namespace Http.Store

private theorem ofText_eq_ok {text bucket : String} {store : Store}
    (accepted : ofText text bucket = .ok store) :
    Url.read text = .ok (.web store.endpoint) ∧ store.bucket = bucket ∧ bucket.toList ≠ [] := by
  rw [ofText, readEndpoint] at accepted
  cases web : Url.read text with
  | error fault =>
      rw [web] at accepted
      cases accepted
  | ok reference =>
      rw [web] at accepted
      cases reference with
      | other => cases accepted
      | web url =>
          by_cases empty : bucket.isEmpty = true
          · simp [empty] at accepted
          · have opened : store = { endpoint := url, bucket := bucket } := by
              simpa [empty] using accepted.symm
            subst opened
            exact ⟨rfl, rfl, fun nothing => empty (by simpa using nothing)⟩

/-- The URL of an object below an endpoint.  Behind the path of the endpoint stand the
bucket and the filled segments of the object's path, each encoded, apart from each other and
from what is behind the path, and each as it can be read back. -/
structure Encodes (endpoint : Url) (bucket path : String) (url : Url) : Prop where
  elsewhere : url = { endpoint with segments := url.segments }
  path_eq : Url.pathText url.segments = Url.lessSlash (Url.pathText endpoint.segments)
    ++ Url.pathText (Url.encoded (bucket.toList :: pathSegments path))
  apart : Text.splitAt '/' (Url.pathText (Url.encoded (bucket.toList :: pathSegments path)))
    = [] :: Url.encoded (bucket.toList :: pathSegments path)
  inside : ∀ c, c ∈ ['?', '#', '\\'] →
    c ∉ Url.pathText (Url.encoded (bucket.toList :: pathSegments path))
  decoded : ∀ piece, piece ∈ bucket.toList :: pathSegments path →
    Text.decode? (Url.decode (Url.encode Url.inSegment piece)) = some (String.ofList piece)

private theorem pathSegments_filled {path : String} {piece : List Char}
    (member : piece ∈ pathSegments path) : piece ≠ [] :=
  (Url.mem_filled.mp member).2

theorem objectUrl_kept {store : Store} {path : String} (filled : store.bucket.toList ≠ [])
    (kept : ∀ piece, piece ∈ store.bucket.toList :: pathSegments path → Url.IsKept piece) :
    (store.objectUrl path).segments = Url.giveWay (Url.popIfEmpty store.endpoint.segments)
      ++ Url.encoded (store.bucket.toList :: pathSegments path) := by
  have bucket := (kept _ List.mem_cons_self).stands filled
  have pieces : ∀ piece, piece ∈ pathSegments path → Url.StandsInPath piece := fun piece member =>
    (kept piece (List.mem_cons_of_mem _ member)).stands (pathSegments_filled member)
  have closed := Url.append_encoded_ne_root
    (Url.giveWay (Url.popIfEmpty store.endpoint.segments)) filled
  simp only [objectUrl]
  rw [List.foldl_cons, Url.pushSegment_standing _ bucket, Url.foldl_standing _ closed pieces,
    List.append_assoc, ← Url.encoded_append, List.singleton_append]

private theorem objectUrl_path {store : Store} {path : String} (filled : store.bucket.toList ≠ [])
    (whole : Url.Whole store.endpoint.segments)
    (notDoubled : Url.pathText store.endpoint.segments ≠ ['/', '/'])
    (kept : ∀ piece, piece ∈ store.bucket.toList :: pathSegments path → Url.IsKept piece) :
    Url.pathText (store.objectUrl path).segments
      = Url.lessSlash (Url.pathText store.endpoint.segments)
        ++ Url.pathText (Url.encoded (store.bucket.toList :: pathSegments path)) := by
  rw [objectUrl_kept filled kept, Url.pathText_append, Url.pathText_base whole notDoubled]

/-- The URL of an object encodes bucket and path below the endpoint, and two objects have
the same URL only if the filled segments of their paths are the same. -/
theorem objectUrl_encodes (text bucket : String) (store : Store) (path : String)
    (accepted : ofText text bucket = .ok store)
    (notDoubled : Url.pathText store.endpoint.segments ≠ ['/', '/'])
    (kept : ∀ piece, piece ∈ bucket.toList :: pathSegments path → Url.IsKept piece) :
    Encodes store.endpoint bucket path (store.objectUrl path) ∧
    ∀ other, (∀ piece, piece ∈ pathSegments other → Url.IsKept piece) →
      ((store.objectUrl other).written = (store.objectUrl path).written ↔
        pathSegments other = pathSegments path) := by
  obtain ⟨web, rfl, filled⟩ := ofText_eq_ok accepted
  have whole := Url.whole_of_read web
  have path_eq := objectUrl_path filled whole notDoubled kept
  refine ⟨⟨rfl, path_eq, Url.splitAt_pathText (Url.whole_encoded _),
    fun _ => Url.not_mem_pathText_encoded _, fun piece _ => Url.decode?_decode_encode piece⟩, ?_⟩
  intro other keptOther
  constructor
  · intro same
    have alsoKept : ∀ piece, piece ∈ store.bucket.toList :: pathSegments other →
        Url.IsKept piece := by
      intro piece member
      rcases List.mem_cons.mp member with rfl | inPath
      · exact kept _ List.mem_cons_self
      · exact keptOther piece inPath
    have paths : Url.pathText (store.objectUrl other).segments
        = Url.pathText (store.objectUrl path).segments := Url.pathText_of_written same
    rw [path_eq, objectUrl_path filled whole notDoubled alsoKept] at paths
    have cuts := congrArg (Text.splitAt '/') (List.append_cancel_left paths)
    rw [Url.splitAt_pathText (Url.whole_encoded _), Url.splitAt_pathText (Url.whole_encoded _)]
      at cuts
    exact (List.cons.inj (Url.encoded_injective (List.cons.inj cuts).2)).2
  · intro same
    rw [objectUrl, objectUrl, same]

def nestedStore : Store :=
  { endpoint := { Settings.localUrl with segments := ["base".toList, []] }, bucket := "b/1" }

private theorem nestedStore_accepted :
    ofText "http://localhost:4566/base/" "b/1" = .ok nestedStore := by
  have web : Url.read "http://localhost:4566/base/" = .ok (.web nestedStore.endpoint) :=
    Url.eq_ok_of_toOption (by decide +kernel)
  rw [ofText, readEndpoint, web]
  rfl

theorem objectUrl_encodes_awkward :
    (nestedStore.objectUrl "//out put//50%?é\\#.csv").written
      = "http://localhost:4566/base/b%2F1/out%20put/50%25%3F%C3%A9%5C%23.csv" ∧
    Encodes nestedStore.endpoint "b/1" "//out put//50%?é\\#.csv"
      (nestedStore.objectUrl "//out put//50%?é\\#.csv") ∧
    (nestedStore.objectUrl "/out put/50%/?é\\#.csv").written
      ≠ (nestedStore.objectUrl "//out put//50%?é\\#.csv").written := by
  have kept {pieces : List (List Char)}
      (checked : (pieces.all fun piece => piece != ['.'] && piece != ['.', '.'] &&
        piece.all fun c => !(['\t', '\n', '\r'] : List Char).contains c) = true) :
      ∀ piece, piece ∈ pieces → Url.IsKept piece := by
    intro piece member
    have passed := List.all_eq_true.mp checked piece member
    simp only [Bool.and_eq_true, bne_iff_ne, List.all_eq_true, Bool.not_eq_true',
      List.contains_eq_mem, decide_eq_false_iff_not] at passed
    exact ⟨passed.1.1, passed.1.2, passed.2⟩
  obtain ⟨encodes, distinct⟩ := objectUrl_encodes "http://localhost:4566/base/" "b/1" nestedStore
    "//out put//50%?é\\#.csv" nestedStore_accepted (by decide) (kept (by decide))
  refine ⟨by decide +kernel, encodes, ?_⟩
  rw [ne_eq, distinct "/out put/50%/?é\\#.csv" (kept (by decide))]
  decide

end Http.Store

end RemoteQuery
