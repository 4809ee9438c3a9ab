import RemoteQuery.Text.Blank
set_option autoImplicit false

/-! What trimming leaves and takes.  What is left is a part of the text, what is taken
satisfies the condition, and a character that does not satisfy it keeps everything before
it. -/

namespace RemoteQuery.Text

theorem dropEndWhile_append (drop : Char → Bool) (text : List Char) :
    ∃ dropped, dropEndWhile drop text ++ dropped = text ∧
      ∀ c, c ∈ dropped → drop c = true := by
  refine ⟨(text.reverse.takeWhile drop).reverse, ?_, ?_⟩
  · rw [dropEndWhile, ← List.reverse_append, List.takeWhile_append_dropWhile, List.reverse_reverse]
  · intro c member
    exact List.all_eq_true.mp List.all_takeWhile c (List.mem_reverse.mp member)

theorem dropEndWhile_of_kept (drop : Char → Bool) {c : Char} (stays : drop c = false)
    (before after : List Char) :
    dropEndWhile drop (before ++ c :: after) = before ++ c :: dropEndWhile drop after := by
  have turned : (before ++ c :: after).reverse = after.reverse ++ c :: before.reverse := by
    rw [List.reverse_append, List.reverse_cons, List.append_assoc]
    rfl
  have stop : (c :: before.reverse).dropWhile drop = c :: before.reverse :=
    List.dropWhile_cons_of_neg (Bool.eq_false_iff.mp stays)
  rw [dropEndWhile, dropEndWhile, turned, List.dropWhile_append, stop]
  cases rest : after.reverse.dropWhile drop with
  | nil =>
      rw [List.isEmpty_nil, if_pos rfl, List.reverse_cons, List.reverse_reverse]
      rfl
  | cons last others =>
      rw [List.isEmpty_cons, if_neg Bool.false_ne_true, List.reverse_append, List.reverse_cons,
        List.reverse_reverse, List.append_assoc]
      rfl

theorem mem_dropAroundWhile {drop : Char → Bool} {c : Char} {text : List Char}
    (member : c ∈ text) (stays : drop c = false) : c ∈ dropAroundWhile drop text := by
  have behind : c ∈ text.dropWhile drop := by
    rw [← @List.takeWhile_append_dropWhile _ drop text] at member
    rcases List.mem_append.mp member with here | behind
    · have dropped := List.all_eq_true.mp List.all_takeWhile c here
      rw [stays] at dropped
      cases dropped
    · exact behind
  obtain ⟨back, same, droppable⟩ := dropEndWhile_append drop (text.dropWhile drop)
  rw [← same] at behind
  rcases List.mem_append.mp behind with here | last
  · exact here
  · have dropped := droppable c last
    rw [stays] at dropped
    cases dropped

private theorem dropEndWhile_of_all {drop : Char → Bool} {text : List Char}
    (droppable : ∀ c, c ∈ text → drop c = true) : dropEndWhile drop text = [] := by
  have all : ∀ c, c ∈ text.reverse → drop c = true :=
    fun c member => droppable c (List.mem_reverse.mp member)
  have gone := @List.dropWhile_append_of_pos _ drop text.reverse [] all
  rw [List.append_nil] at gone
  rw [dropEndWhile, gone]
  rfl

theorem dropEndWhile_of_ended {drop : Char → Bool} {kept tail : List Char}
    (stays : ∀ last, kept.getLast? = some last → drop last = false)
    (droppable : ∀ c, c ∈ tail → drop c = true) : dropEndWhile drop (kept ++ tail) = kept := by
  rcases List.eq_nil_or_concat kept with rfl | ⟨before, last, rfl⟩
  · exact dropEndWhile_of_all droppable
  · rw [List.concat_eq_append] at stays ⊢
    rw [List.append_assoc, List.singleton_append,
      dropEndWhile_of_kept drop (stays last List.getLast?_concat), dropEndWhile_of_all droppable]

theorem dropEndWhile_ended (drop : Char → Bool) (text : List Char) :
    ∀ last, (dropEndWhile drop text).getLast? = some last → drop last = false := by
  intro last found
  have stop := List.head?_dropWhile_not drop text.reverse
  rw [dropEndWhile, List.getLast?_reverse] at found
  rw [found] at stop
  exact stop

theorem mem_of_getLast?_append {front part : List Char} {last : Char} (filled : part ≠ [])
    (found : (front ++ part).getLast? = some last) : last ∈ part := by
  obtain ⟨before, final, rfl⟩ := (List.eq_nil_or_concat part).resolve_left filled
  rw [List.concat_eq_append, ← List.append_assoc, List.getLast?_concat] at found
  simp [← Option.some.inj found]

/-- What is left of a text when characters are dropped at both of its ends. -/
structure Inner (drop : Char → Bool) (text inner : List Char) : Prop where
  around : ∃ front back, text = front ++ inner ++ back ∧ (∀ c, c ∈ front → drop c = true) ∧
    ∀ c, c ∈ back → drop c = true
  first : ∀ c, inner.head? = some c → drop c = false
  last : ∀ c, inner.getLast? = some c → drop c = false

theorem dropAroundWhile_inner (drop : Char → Bool) (text : List Char) :
    Inner drop text (dropAroundWhile drop text) := by
  obtain ⟨back, same, droppable⟩ := dropEndWhile_append drop (text.dropWhile drop)
  refine ⟨⟨text.takeWhile drop, back, ?_, List.all_eq_true.mp List.all_takeWhile, droppable⟩, ?_,
    dropEndWhile_ended drop _⟩
  · rw [dropAroundWhile, List.append_assoc, same, List.takeWhile_append_dropWhile]
  · intro c found
    have stop := List.head?_dropWhile_not drop text
    rw [← same, List.head?_append, show (dropEndWhile drop (text.dropWhile drop)).head? = some c
      from found] at stop
    exact stop

theorem Inner.dropAroundWhile_eq {drop : Char → Bool} {text inner : List Char}
    (core : Inner drop text inner) : dropAroundWhile drop text = inner := by
  obtain ⟨⟨front, back, rfl, droppableFront, droppableBack⟩, first, last⟩ := core
  rw [dropAroundWhile, List.append_assoc, List.dropWhile_append_of_pos droppableFront]
  cases inner with
  | nil =>
      exact dropEndWhile_of_all fun c member =>
        droppableBack c ((List.dropWhile_sublist drop).subset member)
  | cons c rest =>
      rw [List.cons_append, List.dropWhile_cons_of_neg (Bool.eq_false_iff.mp (first c rfl)),
        ← List.cons_append]
      exact dropEndWhile_of_ended last droppableBack

theorem trim_append (text : List Char) :
    ∃ front back, text = front ++ trim text ++ back ∧
      (∀ c, c ∈ front → isBlank c = true) ∧ ∀ c, c ∈ back → isBlank c = true :=
  (dropAroundWhile_inner isBlank text).around

theorem trim_of_solid {front solid back : List Char}
    (blankFront : ∀ c, c ∈ front → isBlank c = true)
    (visible : ∀ c, c ∈ solid → isBlank c = false)
    (blankBack : ∀ c, c ∈ back → isBlank c = true) : trim (front ++ solid ++ back) = solid := by
  apply Inner.dropAroundWhile_eq
  exact ⟨⟨front, back, rfl, blankFront, blankBack⟩,
    fun c found => visible c (List.mem_of_head? found),
    fun c found => visible c (List.mem_of_getLast? found)⟩

theorem exists_last_visible {text : List Char} (visible : ∃ c, c ∈ text ∧ isBlank c = false) :
    ∃ front last back, text = front ++ last :: back ∧ isBlank last = false ∧
      ∀ c, c ∈ back → isBlank c = true := by
  induction text with
  | nil =>
      obtain ⟨c, member, _⟩ := visible
      cases member
  | cons first rest inductionHypothesis =>
      by_cases later : ∃ c, c ∈ rest ∧ isBlank c = false
      · obtain ⟨front, last, back, same, lastVisible, blank⟩ := inductionHypothesis later
        exact ⟨first :: front, last, back, by rw [same]; rfl, lastVisible, blank⟩
      · have allBlank : ∀ c, c ∈ rest → isBlank c = true := by
          intro c member
          cases blank : isBlank c with
          | true => rfl
          | false => exact (later ⟨c, member, blank⟩).elim
        obtain ⟨c, member, notBlank⟩ := visible
        rcases List.mem_cons.mp member with here | behind
        · rw [here] at notBlank
          exact ⟨[], first, rest, rfl, notBlank, allBlank⟩
        · exact (later ⟨c, behind, notBlank⟩).elim

end RemoteQuery.Text
