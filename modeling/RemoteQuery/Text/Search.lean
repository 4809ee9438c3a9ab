set_option autoImplicit false

/-! Searching in a list of characters: replacing every occurrence of a token,
asking for an occurrence, and cutting at a separator.  Occurrences are taken from
left to right and never overlap. -/

namespace RemoteQuery.Text

/-- Pass over the first `skip` characters, then replace each occurrence of `token`. -/
def replaceAfter (token replacement : List Char) : Nat → List Char → List Char
  | _, [] => []
  | skip + 1, _ :: rest => replaceAfter token replacement skip rest
  | 0, c :: rest =>
      if token.isPrefixOf (c :: rest) then
        replacement ++ replaceAfter token replacement (token.length - 1) rest
      else
        c :: replaceAfter token replacement 0 rest

def replace (token replacement text : List Char) : List Char :=
  replaceAfter token replacement 0 text

def hasInfix (token : List Char) : List Char → Bool
  | [] => token.isEmpty
  | c :: rest => token.isPrefixOf (c :: rest) || hasInfix token rest

theorem hasInfix_iff (token text : List Char) : hasInfix token text = true ↔ token <:+: text := by
  induction text with
  | nil => simp [hasInfix]
  | cons c rest inductionHypothesis =>
      rw [hasInfix, Bool.or_eq_true, List.isPrefixOf_iff_prefix, inductionHypothesis,
        List.infix_cons_iff]

/-- The pieces between the separators; there is always at least one. -/
def splitAt (separator : Char) : List Char → List (List Char)
  | [] => [[]]
  | c :: rest =>
      if c = separator then [] :: splitAt separator rest
      else match splitAt separator rest with
        | [] => [[c]]
        | piece :: others => (c :: piece) :: others

def equalsIgnoringAsciiCase (left right : String) : Bool :=
  left.toList.map Char.toLower == right.toList.map Char.toLower

theorem splitAt_ne_nil (separator : Char) (text : List Char) : splitAt separator text ≠ [] := by
  cases text with
  | nil => simp [splitAt]
  | cons c rest =>
      unfold splitAt
      split
      · simp
      · split <;> simp

end RemoteQuery.Text
