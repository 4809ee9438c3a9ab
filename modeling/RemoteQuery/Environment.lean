import RemoteQuery.Text.Blank
import RemoteQuery.Text.Letter
import RemoteQuery.Text.Search
set_option autoImplicit false

/-! Environment variables, and the file of assignments that completes them.

A line of the file assigns a value to a name, perhaps after the word `export`.  A value
may be quoted, may escape characters, and may refer to variables that are already set; a
comment may follow it.  A variable that is set keeps its value.  The first line that
cannot be read ends the file: what stands before it counts. -/

namespace RemoteQuery

/-- Variables and their values.  The first entry of a name is the one that counts. -/
abbrev Environment := List (String × String)

namespace Environment

def get? (environment : Environment) (name : String) : Option String := environment.lookup name

def complete (environment : Environment) (name value : String) : Environment :=
  match environment.get? name with
  | some _ => environment
  | none => environment ++ [(name, value)]

def reference (environment : Environment) (name : List Char) : List Char :=
  ((environment.get? (String.ofList name)).getD "").toList

/-! ## Values -/

/-- Where the reading of a value stands.  Behind an escape or a reference it goes on
within double quotes, or outside all quotes. -/
inductive ValuePhase where
  | bare
  | single
  | double
  | escaped (quoted : Bool)
  | named (quoted : Bool) (name : List Char)
  | braced (quoted : Bool) (name : List Char)
  /-- Behind the blank that ends a value only a comment may follow. -/
  | ending
  deriving Repr, DecidableEq, Inhabited

def ValuePhase.within (quoted : Bool) : ValuePhase := if quoted then .double else .bare

def escapedChar? (c : Char) : Option Char :=
  if c = 'n' then some '\n'
  else if "\\'\"$ ".toList.contains c then some c
  else none

def isNameLetter (c : Char) : Bool := Text.isAlphabetic c || Text.isNumeric c

/-- Read a value to its end.  A quote or brace that is not closed is an error; so is a
character behind the blank that ends a value.  The character behind a reference without
braces stands for itself, whatever it is, unless it begins the next reference. -/
def readValueFrom (environment : Environment) : ValuePhase → List Char → Option (List Char)
  | .bare, [] => some []
  | .ending, [] => some []
  | .escaped false, [] => some []
  | .named false name, [] => some (environment.reference name)
  | _, [] => none
  | .ending, c :: rest =>
      if c = ' ' || c = '\t' then readValueFrom environment .ending rest
      else if c = '#' then some []
      else none
  | .escaped quoted, c :: rest => do
      let meant ← escapedChar? c
      let value ← readValueFrom environment (.within quoted) rest
      return meant :: value
  | .single, c :: rest =>
      if c = '\'' then readValueFrom environment .bare rest
      else (readValueFrom environment .single rest).map (c :: ·)
  | .named quoted name, c :: rest =>
      if isNameLetter c then readValueFrom environment (.named quoted (name ++ [c])) rest
      else if c = '\x7b' && name.isEmpty then readValueFrom environment (.braced quoted []) rest
      else
        let behind :=
          if c = '$' then readValueFrom environment (.named quoted []) rest
          else (readValueFrom environment (.within quoted) rest).map (c :: ·)
        behind.map (environment.reference name ++ ·)
  | .braced quoted name, c :: rest =>
      if c = '\x7d' then
        (readValueFrom environment (.within quoted) rest).map (environment.reference name ++ ·)
      else readValueFrom environment (.braced quoted (name ++ [c])) rest
  | .double, c :: rest =>
      if c = '$' then readValueFrom environment (.named true []) rest
      else if c = '"' then readValueFrom environment .bare rest
      else if c = '\\' then readValueFrom environment (.escaped true) rest
      else (readValueFrom environment .double rest).map (c :: ·)
  | .bare, c :: rest =>
      if c = '$' then readValueFrom environment (.named false []) rest
      else if c = '\'' then readValueFrom environment .single rest
      else if c = '"' then readValueFrom environment .double rest
      else if c = '\\' then readValueFrom environment (.escaped false) rest
      else if c = ' ' || c = '\t' then readValueFrom environment .ending rest
      else (readValueFrom environment .bare rest).map (c :: ·)

def readValue (environment : Environment) (text : List Char) : Option (List Char) :=
  readValueFrom environment .bare text

/-! ## Lines -/

def skipBlanks (text : List Char) : List Char := text.dropWhile Text.isBlank

def isCommentOrEmpty (text : List Char) : Bool := text.isEmpty || text.head? = some '#'

def startsName (c : Char) : Bool := Text.isAsciiLetter c || c = '_'

def continuesName (c : Char) : Bool := startsName c || Text.isAsciiDigit c || c = '.'

def readName : List Char → Option (List Char × List Char)
  | [] => none
  | c :: rest =>
      if startsName c then
        some (c :: rest.takeWhile continuesName, skipBlanks (rest.dropWhile continuesName))
      else none

def afterEquals : List Char → Option (List Char)
  | '=' :: rest => some (skipBlanks rest)
  | _ => none

/-- The name that a line assigns to, and the text of its value.  The word `export` is a
name of its own when an equals sign follows it. -/
def readTarget (line : List Char) : Option (List Char × List Char) := do
  let (word, rest) ← readName line
  match afterEquals rest with
  | some value => return (word, value)
  | none =>
      if word ≠ "export".toList then none
      else
        let (name, rest) ← readName rest
        return (name, ← afterEquals rest)

def readLine (environment : Environment) (line : List Char) : Option Environment :=
  let content := skipBlanks (Text.trimEnd line)
  if isCommentOrEmpty content then some environment
  else do
    let (name, text) ← readTarget content
    let value ← if isCommentOrEmpty text then some [] else environment.readValue text
    return environment.complete (String.ofList name) (String.ofList value)

def readLines : Environment → List (List Char) → Environment
  | environment, [] => environment
  | environment, line :: rest =>
      match environment.readLine line with
      | none => environment
      | some completed => readLines completed rest

def completeBy (environment : Environment) (file : String) : Environment :=
  environment.readLines (Text.splitAt '\n' file.toList)

/-- The words of a file: every name that it may refer to is one of them. -/
def wordsOf (file : String) : List String :=
  ((file.toList.splitOnP fun c => !continuesName c).filter fun word => !word.isEmpty).map
    String.ofList

end Environment

end RemoteQuery
