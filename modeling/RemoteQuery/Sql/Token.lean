import RemoteQuery.Sql.Keyword
import RemoteQuery.Text.Blank
import RemoteQuery.Text.Letter
set_option autoImplicit false

/-! Tokens of SQL text.  White space and comments separate tokens and leave no
token behind; a token only remembers whether it follows the one before it directly.
Quoted identifiers are words that are never keywords.  Reading fails at a quote, a
comment or a dollar-quoted text that is not closed. -/

namespace RemoteQuery.Sql
open RemoteQuery.Text

inductive Token where
  /-- An identifier; `keyword` is its upper-case form, or empty when it was quoted. -/
  | word (text : String) (keyword : String)
  | number (text : String)
  | quoted (text : String)
  /-- A text literal of any other form: marked, raw, hexadecimal or dollar-quoted. -/
  | literal (text : String)
  | placeholder (text : String)
  | symbol (text : String)
  /-- A character that begins no token. -/
  | stray (c : Char)
  deriving Repr, DecidableEq, Inhabited

/-- A token and whether it directly follows the token before it. -/
structure Lexeme where
  token : Token
  joined : Bool
  deriving Repr, DecidableEq, Inhabited

namespace Token

def isIdentifierStart (c : Char) : Bool :=
  isAlphabetic c || c == '_' || c == '#' || c == '@'

def isIdentifierPart (c : Char) : Bool :=
  isAlphabetic c || isAsciiDigit c || c == '@' || c == '$' || c == '#' || c == '_'

/-- What one step of reading finds: separating text, a token, or an unclosed part. -/
inductive Step where
  | separator (rest : List Char)
  | token (token : Token) (rest : List Char)
  | unclosed
  deriving Repr, Inhabited

def ofWord (word : List Char) : Token := .word (String.ofList word) (keywordForm word)

def readWord (first rest : List Char) : Step :=
  let word := first ++ rest.takeWhile isIdentifierPart
  let tail := rest.dropWhile isIdentifierPart
  if word.all isAsciiDigit then .token (.number (String.ofList word)) tail
  else .token (ofWord word) tail

/-- The text up to the closing quote, which stands for itself when doubled.  With
`escapes`, a backslash takes the next character with it. -/
def readQuoted (quote : Char) (escapes : Bool) : List Char → Option (List Char × List Char)
  | [] => none
  | '\\' :: c :: rest =>
      if escapes then (readQuoted quote escapes rest).map fun r => ('\\' :: c :: r.1, r.2)
      else if '\\' = quote then some ([], c :: rest)
      else (readQuoted quote escapes (c :: rest)).map fun r => ('\\' :: r.1, r.2)
  | c :: rest =>
      if c = quote then
        match rest with
        | d :: tail =>
            if d = quote then (readQuoted quote escapes tail).map fun r => (quote :: r.1, r.2)
            else some ([], d :: tail)
        | [] => some ([], [])
      else (readQuoted quote escapes rest).map fun r => (c :: r.1, r.2)

def readTripleQuoted (quote : Char) : List Char → Option (List Char × List Char)
  | [] => none
  | a :: b :: c :: rest =>
      if a = quote && b = quote && c = quote then some ([], rest)
      else (readTripleQuoted quote (b :: c :: rest)).map fun r => (a :: r.1, r.2)
  | _ :: rest => readTripleQuoted quote rest

def literalOf (found : Option (List Char × List Char)) : Step :=
  match found with
  | some (text, rest) => .token (.literal (String.ofList text)) rest
  | none => .unclosed

def readRaw (quote : Char) : List Char → Step
  | a :: b :: rest =>
      if a = quote && b = quote then literalOf (readTripleQuoted quote rest)
      else if a = quote then .token (.literal "") (b :: rest)
      else literalOf (readQuoted quote false (a :: b :: rest))
  | rest => literalOf (readQuoted quote false rest)

def isHexDigit (c : Char) : Bool :=
  isAsciiDigit c || ('a' ≤ c && c ≤ 'f') || ('A' ≤ c && c ≤ 'F')

def hexValue (digits : List Char) : Nat :=
  digits.foldl (fun n c =>
    n * 16 + (if isAsciiDigit c then c.toNat - 48 else c.toUpper.toNat - 55)) 0

def hexChar? (count : Nat) (text : List Char) : Option (Char × List Char) :=
  let digits := text.take count
  if digits.length = count && digits.all isHexDigit then
    let n := hexValue digits
    if n.isValidChar then some (Char.ofNat n, text.drop count) else none
  else none

/-- A text with backslash escapes, up to its closing quote.  No escape may stand
for the null character. -/
def readEscaped : Nat → List Char → Option (List Char × List Char)
  | 0, _ => none
  | _ + 1, [] => none
  | fuel + 1, '\'' :: '\'' :: rest => (readEscaped fuel rest).map fun r => ('\'' :: r.1, r.2)
  | _ + 1, '\'' :: rest => some ([], rest)
  | fuel + 1, '\\' :: c :: rest =>
      let read : Option (Char × List Char) :=
        match c with
        | 'b' => some (Char.ofNat 8, rest)
        | 'f' => some (Char.ofNat 12, rest)
        | 'n' => some ('\n', rest)
        | 'r' => some ('\r', rest)
        | 't' => some ('\t', rest)
        | 'u' => hexChar? 4 rest
        | 'U' => hexChar? 8 rest
        | 'x' =>
            let digits := (rest.take 2).takeWhile isHexDigit
            if digits.isEmpty then some ('x', rest)
            else if hexValue digits < 0x80 then
              some (Char.ofNat (hexValue digits), rest.drop digits.length)
            else none
        | _ =>
            if '0' ≤ c && c ≤ '7' then
              let digits := c :: (rest.take 2).takeWhile fun d => '0' ≤ d && d ≤ '7'
              let n := digits.foldl (fun n d => n * 8 + (d.toNat - 48)) 0 % 256
              if n < 0x80 then some (Char.ofNat n, rest.drop (digits.length - 1)) else none
            else some (c, rest)
      match read with
      | some (d, tail) =>
          if d.toNat = 0 then none else (readEscaped fuel tail).map fun r => (d :: r.1, r.2)
      | none => none
  | _ + 1, ['\\'] => none
  | fuel + 1, c :: rest => (readEscaped fuel rest).map fun r => (c :: r.1, r.2)

def readCodePoints : Nat → List Char → Option (List Char × List Char)
  | 0, _ => none
  | _ + 1, [] => none
  | fuel + 1, '\'' :: '\'' :: rest => (readCodePoints fuel rest).map fun r => ('\'' :: r.1, r.2)
  | _ + 1, '\'' :: rest => some ([], rest)
  | fuel + 1, '\\' :: '\\' :: rest => (readCodePoints fuel rest).map fun r => ('\\' :: r.1, r.2)
  | fuel + 1, '\\' :: rest =>
      let read := match rest with
        | '+' :: more => hexChar? 6 more
        | _ => hexChar? 4 rest
      match read with
      | some (d, tail) => (readCodePoints fuel tail).map fun r => (d :: r.1, r.2)
      | none => none
  | fuel + 1, c :: rest => (readCodePoints fuel rest).map fun r => (c :: r.1, r.2)

/-- What follows a comment `/* */` that is `depth + 1` levels open; comments nest. -/
def skipComment : Nat → List Char → Option (List Char)
  | _, [] => none
  | depth, '/' :: '*' :: rest => skipComment (depth + 1) rest
  | 0, '*' :: '/' :: rest => some rest
  | depth + 1, '*' :: '/' :: rest => skipComment depth rest
  | depth, _ :: rest => skipComment depth rest

def readUntil (mark : List Char) : List Char → Option (List Char × List Char)
  | [] => none
  | c :: rest =>
      if mark.isPrefixOf (c :: rest) then some ([], (c :: rest).drop mark.length)
      else (readUntil mark rest).map fun r => (c :: r.1, r.2)

/-- A placeholder such as `$1`, or a text between two equal marks `$tag$`. -/
def readDollar (rest : List Char) : Step :=
  match rest with
  | '$' :: text => literalOf (readUntil ['$', '$'] text)
  | _ =>
      let isTagChar := fun c => isAlphabetic c || Text.isNumeric c || c == '_'
      let tag := rest.takeWhile isTagChar
      match rest.dropWhile isTagChar with
      | '$' :: text => literalOf (readUntil ('$' :: tag ++ ['$']) text)
      | tail => .token (.placeholder (String.ofList ('$' :: tag))) tail

def readExponent : List Char → List Char × List Char
  | e :: rest =>
      if e == 'e' || e == 'E' then
        let (sign, more) : List Char × List Char := match rest with
          | '+' :: r => (['+'], r)
          | '-' :: r => (['-'], r)
          | r => ([], r)
        let digits := more.takeWhile isAsciiDigit
        if digits.isEmpty then ([], e :: rest)
        else (e :: sign ++ digits, more.dropWhile isAsciiDigit)
      else ([], e :: rest)
  | [] => ([], [])

/-- A number or a full stop.  An `L` after the digits belongs to the number. -/
def readNumber (text : List Char) : Step :=
  let whole := text.takeWhile isAsciiDigit
  let afterWhole := text.dropWhile isAsciiDigit
  match whole, afterWhole with
  | ['0'], 'x' :: rest => .token (.literal (String.ofList (rest.takeWhile isHexDigit)))
      (rest.dropWhile isHexDigit)
  | _, _ =>
      let (point, afterPoint) : List Char × List Char := match afterWhole with
        | '.' :: rest => (['.'], rest)
        | rest => ([], rest)
      let fraction := afterPoint.takeWhile isAsciiDigit
      let afterFraction := afterPoint.dropWhile isAsciiDigit
      if whole.isEmpty && fraction.isEmpty then .token (.symbol ".") afterFraction
      else
        let (exponent, rest) := readExponent afterFraction
        let number := Token.number (String.ofList (whole ++ point ++ fraction ++ exponent))
        match rest with
        | 'L' :: tail => .token number tail
        | _ => .token number rest

def operators : List String :=
  ["->>", "->", "<=>", "<=", "<>", "<<", "<@", ">=", ">>", "=>", "==", "!=", "!!",
   "!~~*", "!~~", "!~*", "!~", "||/", "||", "|/", "|>", "::", ":=", "&&", "^@",
   "~~*", "~~", "~*", "#>>", "#>", "#-", "@>", "@?", "@@", "//"]

def operators₁ : List Char :=
  ['(', ')', ',', '-', '/', '+', '*', '%', '|', '=', '!', '<', '>', ':', ';', '\\',
   '[', ']', '&', '^', '{', '}', '~', '?']

def readOperator (text : List Char) : Option (Token × List Char) :=
  match operators.find? fun operator => operator.toList.isPrefixOf text with
  | some operator => some (.symbol operator, text.drop operator.length)
  | none => match text with
    | c :: rest => if operators₁.contains c then some (.symbol (String.singleton c), rest) else none
    | [] => none

def readSigil (c : Char) (rest : List Char) : Step :=
  match readOperator (c :: rest) with
  | some (.symbol "@@", tail) => match tail with
    | ' ' :: _ => .token (.symbol "@@") tail
    | d :: more => readWord ['@', '@', d] more
    | [] => .token (.symbol "@@") []
  | some (token, tail) => .token token tail
  | none => match rest with
    | [] => .token (.symbol (String.singleton c)) []
    | d :: more =>
        if d == ' ' || (c == '@' && (d == '\'' || d == '"' || d == '`')) then
          .token (.symbol (String.singleton c)) rest
        else readWord [c, d] more

/-- Read the separator or token at the beginning of a non-empty text.
`afterWord` says whether a word ends right before it. -/
def step (afterWord : Bool) (c : Char) (rest : List Char) : Step :=
  match c, rest with
  | '-', '-' :: comment => .separator ((comment.dropWhile (· != '\n')).drop 1)
  | '/', '*' :: comment => match skipComment 0 comment with
    | some tail => .separator tail
    | none => .unclosed
  | 'b', '\'' :: text => literalOf (readQuoted '\'' false text)
  | 'B', '\'' :: text => literalOf (readQuoted '\'' false text)
  | 'b', '"' :: text => literalOf (readQuoted '"' false text)
  | 'B', '"' :: text => literalOf (readQuoted '"' false text)
  | 'r', '\'' :: text => readRaw '\'' text
  | 'R', '\'' :: text => readRaw '\'' text
  | 'r', '"' :: text => readRaw '"' text
  | 'R', '"' :: text => readRaw '"' text
  | 'n', '\'' :: text => literalOf (readQuoted '\'' false text)
  | 'N', '\'' :: text => literalOf (readQuoted '\'' false text)
  | 'e', '\'' :: text => literalOf (readEscaped (text.length + 1) text)
  | 'E', '\'' :: text => literalOf (readEscaped (text.length + 1) text)
  | 'u', '&' :: '\'' :: text => literalOf (readCodePoints (text.length + 1) text)
  | 'U', '&' :: '\'' :: text => literalOf (readCodePoints (text.length + 1) text)
  | 'x', '\'' :: text => literalOf (readQuoted '\'' true text)
  | 'X', '\'' :: text => literalOf (readQuoted '\'' true text)
  | '\'', text => match readQuoted '\'' false text with
    | some (content, tail) => .token (.quoted (String.ofList content)) tail
    | none => .unclosed
  | '$', text => readDollar text
  | '?', text =>
      .token (.placeholder (String.ofList ('?' :: text.takeWhile Text.isNumeric)))
        (text.dropWhile Text.isNumeric)
  | '.', '_' :: text => if afterWord then .token (.symbol ".") ('_' :: text) else .unclosed
  | _, _ =>
      if c == '"' || c == '`' then
        match readQuoted c false rest with
        | some (name, tail) => .token (.word (String.ofList name) "") tail
        | none => .unclosed
      else if c == '.' || isAsciiDigit c then readNumber (c :: rest)
      else if c == '#' || c == '@' then readSigil c rest
      else match readOperator (c :: rest) with
        | some (token, tail) => .token token tail
        | none =>
            if isIdentifierStart c then readWord [c] rest
            else if isBlank c then .separator rest
            else .token (.stray c) rest

/-- Read tokens one after another; `fuel` bounds their number. -/
def readAll : Nat → Bool → Bool → List Char → Option (List Lexeme)
  | _, _, _, [] => some []
  | 0, _, _, _ :: _ => none
  | fuel + 1, afterWord, joined, c :: rest =>
      match step afterWord c rest with
      | .separator tail => readAll fuel false false tail
      | .token token tail =>
          let isWord := match token with
            | .word _ _ => true
            | _ => false
          (readAll fuel isWord true tail).map fun lexemes => ⟨token, joined⟩ :: lexemes
      | .unclosed => none

end Token

/-- The tokens of a text, or `none` when some quote or comment is not closed. -/
def lex (text : String) : Option (List Lexeme) :=
  let chars := text.toList
  Token.readAll chars.length false true chars

end RemoteQuery.Sql
