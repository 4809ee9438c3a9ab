import RemoteQuery.Json.Printer
import RemoteQuery.Json.Reader
import RemoteQuery.Proofs.Json.Quoted
set_option autoImplicit false

/-! Objects of texts are read back.  The compact and the spread form of an object differ in
the blanks around its parts only, and the reader passes over blanks.  So each form is read
as the object that was written, with all of its fields in their order. -/

namespace RemoteQuery.Json

def textFields (fields : List (String × String)) : List (String × Value) :=
  fields.map fun field => (field.1, .text field.2)

/-- What stands between the parts of an object: in front of a name, of a value, and of the
brace that closes it. -/
structure Layout where
  beforeName : List Char
  beforeContent : List Char
  beforeEnd : List Char

namespace Layout

def compact : Layout := { beforeName := [], beforeContent := [], beforeEnd := [] }

def spread (level : Nat) : Layout :=
  { beforeName := newLine (level + 1), beforeContent := [' '], beforeEnd := newLine level }

def contentChars (layout : Layout) (content : String) (rest : List Char) : List Char :=
  layout.beforeContent ++ '"' :: (escapeText content.toList ++ '"' :: rest)

def fieldChars (layout : Layout) (name content : String) (rest : List Char) : List Char :=
  layout.beforeName ++ '"' :: (escapeText name.toList ++ '"' :: ':' ::
    layout.contentChars content rest)

def moreChars (layout : Layout) : List (String × String) → List Char
  | [] => layout.beforeEnd ++ ['\x7d']
  | (name, content) :: rest => ',' :: layout.fieldChars name content (layout.moreChars rest)

def objectChars (layout : Layout) : List (String × String) → List Char
  | [] => ['\x7b', '\x7d']
  | (name, content) :: rest => '\x7b' :: layout.fieldChars name content (layout.moreChars rest)

structure IsBlank (layout : Layout) : Prop where
  beforeName : ∀ c, c ∈ layout.beforeName → isJsonBlank c = true
  beforeContent : ∀ c, c ∈ layout.beforeContent → isJsonBlank c = true
  beforeEnd : ∀ c, c ∈ layout.beforeEnd → isJsonBlank c = true

private theorem compact_isBlank : compact.IsBlank := ⟨nofun, nofun, nofun⟩

private theorem newLine_blank (level : Nat) : ∀ c, c ∈ newLine level → isJsonBlank c = true := by
  intro c member
  rcases List.mem_cons.mp member with first | indent
  · rw [first]
    rfl
  · rw [List.eq_of_mem_replicate indent]
    rfl

private theorem spread_isBlank (level : Nat) : (spread level).IsBlank where
  beforeName := newLine_blank _
  beforeContent := by
    intro c member
    rw [List.mem_singleton.mp member]
    rfl
  beforeEnd := newLine_blank _

end Layout

/-! ### Writing -/

private theorem compactFields_textFields (fields : List (String × String)) :
    compactFields (textFields fields) = Layout.compact.moreChars fields := by
  induction fields with
  | nil => rfl
  | cons field fields inductionHypothesis =>
      rw [textFields, List.map_cons, compactFields, compactChars, ← textFields,
        inductionHypothesis]
      simp only [Layout.moreChars, Layout.fieldChars, Layout.contentChars,
        Layout.compact, quote, List.nil_append,
        List.cons_append, List.append_assoc]

private theorem compactChars_textFields (fields : List (String × String)) :
    compactChars (.object (textFields fields)) = Layout.compact.objectChars fields := by
  cases fields with
  | nil => rfl
  | cons field fields =>
      rw [textFields, List.map_cons, compactChars, compactChars, ← textFields,
        compactFields_textFields]
      simp only [Layout.objectChars, Layout.fieldChars, Layout.contentChars,
        Layout.compact, quote, List.nil_append,
        List.cons_append, List.append_assoc]

private theorem spreadFields_textFields (level : Nat) (fields : List (String × String)) :
    spreadFields level (textFields fields) = (Layout.spread level).moreChars fields := by
  induction fields with
  | nil => rfl
  | cons field fields inductionHypothesis =>
      rw [textFields, List.map_cons, spreadFields, ← textFields, inductionHypothesis]
      simp only [spreadChars, compactChars, Layout.moreChars, Layout.fieldChars,
        Layout.contentChars, Layout.spread, quote, List.nil_append, List.cons_append,
        List.append_assoc]

private theorem spreadChars_textFields (level : Nat) (fields : List (String × String)) :
    spreadChars level (.object (textFields fields)) = (Layout.spread level).objectChars fields := by
  cases fields with
  | nil => rfl
  | cons field fields =>
      rw [textFields, List.map_cons, spreadChars, ← textFields, spreadFields_textFields]
      simp only [spreadChars, compactChars, Layout.objectChars, Layout.fieldChars,
        Layout.contentChars, Layout.spread, quote, List.nil_append, List.cons_append,
        List.append_assoc]

/-! ### Reading -/

theorem skipBlanks_append {gap : List Char} (blank : ∀ c, c ∈ gap → isJsonBlank c = true)
    {c : Char} (visible : isJsonBlank c = false) (rest : List Char) :
    skipBlanks (gap ++ c :: rest) = c :: rest := by
  rw [skipBlanks, List.dropWhile_append_of_pos blank,
    List.dropWhile_cons_of_neg (Bool.eq_false_iff.mp visible)]

private theorem readName_quoted {gap : List Char} (blank : ∀ c, c ∈ gap → isJsonBlank c = true)
    (name : String) (rest : List Char) :
    readName (gap ++ '"' :: (escapeText name.toList ++ '"' :: ':' :: rest))
      = some (name, rest) := by
  obtain ⟨units, read, chars⟩ := exists_units_quoted name.toList (':' :: rest)
  have colon : skipBlanks (':' :: rest) = ':' :: rest := List.dropWhile_cons_of_neg (by decide)
  rw [readName, skipBlanks_append blank rfl]
  simp only [read, chars, colon, String.ofList_toList]

private theorem readValue_quoted {gap : List Char} (blank : ∀ c, c ∈ gap → isJsonBlank c = true)
    (fuel : Nat) (text : String) (rest : List Char) :
    readValue (fuel + 1) (gap ++ '"' :: (escapeText text.toList ++ '"' :: rest))
      = some (.text text, rest) := by
  obtain ⟨units, read, chars⟩ := exists_units_quoted text.toList rest
  rw [readValue, skipBlanks_append blank rfl]
  simp only [if_true, readText, read, Option.map_some, chars, String.ofList_toList]

namespace Layout

private theorem fieldChars_append (layout : Layout) (name content : String)
    (rest behind : List Char) :
    layout.fieldChars name content rest ++ behind
      = layout.fieldChars name content (rest ++ behind) := by
  simp only [fieldChars, contentChars, List.append_assoc, List.cons_append]

private theorem length_lt_moreChars (layout : Layout) (fields : List (String × String)) :
    fields.length < (layout.moreChars fields).length := by
  induction fields with
  | nil =>
      rw [moreChars, List.length_append, List.length_singleton]
      exact Nat.succ_pos _
  | cons field fields inductionHypothesis =>
      simp only [moreChars, fieldChars, contentChars, List.length_cons, List.length_append]
      omega

private theorem length_lt_objectChars (layout : Layout) (fields : List (String × String)) :
    fields.length < (layout.objectChars fields).length := by
  cases fields with
  | nil => exact Nat.succ_pos _
  | cons field fields =>
      have longer := layout.length_lt_moreChars fields
      simp only [objectChars, fieldChars, contentChars, List.length_cons, List.length_append]
      omega

section

variable {layout : Layout} (blank : layout.IsBlank)

include blank

private theorem readFields_moreChars (fields : List (String × String)) (rest : List Char)
    {fuel : Nat} (enough : fields.length < fuel) :
    readFields fuel (layout.moreChars fields ++ rest) = some (textFields fields, rest) := by
  induction fields generalizing fuel with
  | nil =>
      obtain ⟨fuel, rfl⟩ := Nat.exists_eq_succ_of_ne_zero (Nat.ne_of_gt enough)
      have closed : skipBlanks (layout.moreChars [] ++ rest) = '\x7d' :: rest := by
        rw [moreChars, List.append_assoc]
        exact skipBlanks_append blank.beforeEnd rfl rest
      rw [readFields]
      simp only [closed]
      rfl
  | cons field fields inductionHypothesis =>
      obtain ⟨name, content⟩ := field
      rw [List.length_cons] at enough
      obtain ⟨fuel, rfl⟩ : ∃ more, fuel = more + 2 := ⟨fuel - 2, by omega⟩
      have comma : skipBlanks (layout.moreChars ((name, content) :: fields) ++ rest)
          = ',' :: layout.fieldChars name content (layout.moreChars fields ++ rest) := by
        rw [moreChars, List.cons_append, fieldChars_append]
        exact List.dropWhile_cons_of_neg (by decide)
      have read := @inductionHypothesis (fuel + 1) (by omega)
      rw [readFields]
      simp only [comma]
      rw [fieldChars, readName_quoted blank.beforeName]
      simp only
      rw [contentChars, readValue_quoted blank.beforeContent]
      simp only [read]
      rfl

private theorem readValue_objectChars (fields : List (String × String)) (rest : List Char)
    {fuel : Nat} (enough : fields.length < fuel) :
    readValue (fuel + 1) (layout.objectChars fields ++ rest)
      = some (.object (textFields fields), rest) := by
  have opened : skipBlanks (layout.objectChars fields ++ rest)
      = layout.objectChars fields ++ rest := by
    cases fields <;> exact List.dropWhile_cons_of_neg (by decide)
  rw [readValue, opened]
  cases fields with
  | nil => rfl
  | cons field fields =>
      obtain ⟨name, content⟩ := field
      obtain ⟨fuel, rfl⟩ := Nat.exists_eq_succ_of_ne_zero (Nat.ne_of_gt (Nat.zero_lt_of_lt enough))
      have quoted : skipBlanks (layout.fieldChars name content (layout.moreChars fields ++ rest))
          = '"' :: (escapeText name.toList ++ '"' :: ':' ::
            layout.contentChars content (layout.moreChars fields ++ rest)) :=
        skipBlanks_append blank.beforeName rfl _
      have read := readFields_moreChars blank fields rest (Nat.lt_of_succ_lt enough)
      rw [objectChars, List.cons_append, fieldChars_append]
      simp only [quoted]
      rw [fieldChars, readName_quoted blank.beforeName]
      simp only
      rw [contentChars, readValue_quoted blank.beforeContent]
      simp only [read]
      rfl

/-- An object of texts is read back, whatever blanks its layout has. -/
theorem read?_objectChars (fields : List (String × String)) :
    read? (String.ofList (layout.objectChars fields)) = some (.object (textFields fields)) := by
  have whole := readValue_objectChars blank fields [] (layout.length_lt_objectChars fields)
  rw [List.append_nil] at whole
  rw [read?, String.toList_ofList]
  simp only [whole]
  rfl

end

end Layout

theorem read?_compact_textFields (fields : List (String × String)) :
    read? (Json.compact (.object (textFields fields))) = some (.object (textFields fields)) := by
  rw [Json.compact, compactChars_textFields]
  exact Layout.read?_objectChars Layout.compact_isBlank fields

theorem read?_spread_textFields (fields : List (String × String)) :
    read? (Json.spread (.object (textFields fields))) = some (.object (textFields fields)) := by
  rw [Json.spread, spreadChars_textFields]
  exact Layout.read?_objectChars (Layout.spread_isBlank 0) fields

end RemoteQuery.Json
