import RemoteQuery.Sql.Parse
import RemoteQuery.Text.Blank
import RemoteQuery.Text.Letter
import RemoteQuery.Text.Search
set_option autoImplicit false

/-! The ranking column.  A statement can be paged by row number only when it selects a
window function under the name `rn`.  The syntax tree decides where the statement can
be read; a text that the reader does not know is searched for a ranking call and, apart
from it, for a closing parenthesis that is given the name. -/

namespace RemoteQuery.Sql

def rankingName : String := "rn"

/-- A select item that is itself a windowed call and is named `rn`. -/
def Item.isRanking (item : Item) : Bool :=
  match item.shape, item.label with
  | .call true, some name => Text.equalsIgnoringAsciiCase name rankingName
  | _, _ => false

mutual

/-- Whether a select list that the query reads from holds a ranking item. -/
def Query.hasRanking : Query → Bool
  | .mk tables body => Query.anyHasRanking tables || body.hasRanking

def Query.anyHasRanking : List Query → Bool
  | [] => false
  | query :: others => query.hasRanking || Query.anyHasRanking others

def Body.hasRanking : Body → Bool
  | .select items sources => items.any Item.isRanking || Source.anyHasRanking sources
  | .parenthesised query => query.hasRanking
  | .setOperation left right => left.hasRanking || right.hasRanking
  | .other => false

def Source.hasRanking : Source → Bool
  | .mk relation joined => relation.hasRanking || Relation.anyHasRanking joined

def Source.anyHasRanking : List Source → Bool
  | [] => false
  | source :: others => source.hasRanking || Source.anyHasRanking others

def Relation.hasRanking : Relation → Bool
  | .derived query => query.hasRanking
  | .nestedJoin source => source.hasRanking
  | .other => false

def Relation.anyHasRanking : List Relation → Bool
  | [] => false
  | relation :: others => relation.hasRanking || Relation.anyHasRanking others

end

def Statement.hasRanking : Statement → Bool
  | .query content => content.hasRanking
  | .other => false

/-- A character that stands for a lower-case pattern letter in any case.  Besides the
two ASCII forms, the Kelvin sign is a `k` and the long s is an `s`. -/
def standsFor (pattern c : Char) : Bool :=
  c.toLower == pattern
    || (pattern == 'k' && c == '\u212A')
    || (pattern == 's' && c == '\u017F')

def afterWord : List Char → List Char → Option (List Char)
  | [], text => some text
  | _ :: _, [] => none
  | pattern :: word, c :: text =>
      if standsFor pattern c then afterWord word text else none

def afterOne (allowed : Char → Bool) : List Char → Option (List Char)
  | [] => none
  | c :: text => if allowed c then some text else none

def afterOptional (allowed : Char → Bool) (text : List Char) : List Char :=
  (afterOne allowed text).getD text

def skipBlank (text : List Char) : List Char := text.dropWhile Text.isBlank

def rankingFunctions : List String := ["row_number", "rank", "dense_rank"]

def beginsWithRankingCall (function : String) (text : List Char) : Bool :=
  let behindOver := do
    let behindName ← afterWord function.toList text
    let opened ← afterOne (· == '(') (skipBlank behindName)
    let closed ← afterOne (· == ')') (skipBlank opened)
    afterWord "over".toList (skipBlank closed)
  match behindOver with
  | none => false
  | some [] => true
  | some (c :: _) => !Text.isWordChar c

/-- Whether a ranking call stands somewhere in the text, where `behindWord` tells
whether a word character precedes the text. -/
def hasRankingCall (behindWord : Bool) : List Char → Bool
  | [] => false
  | c :: rest =>
      (!behindWord && rankingFunctions.any fun function => beginsWithRankingCall function (c :: rest))
        || hasRankingCall (Text.isWordChar c) rest

def isNameQuote (c : Char) : Bool := c == '\x60' || c == '"'

/-- The text behind the word `as` and at least one blank, or the text itself. -/
def afterAs (text : List Char) : List Char :=
  match afterWord "as".toList text with
  | some (c :: rest) => if Text.isBlank c then skipBlank rest else text
  | _ => text

/-- Whether the text begins with the ranking name, quoted or not, and the name ends
there: at a blank, at a comma or with the text. -/
def beginsWithRankingName (text : List Char) : Bool :=
  match afterWord rankingName.toList (afterOptional isNameQuote (afterAs (skipBlank text))) with
  | none => false
  | some behind =>
      match afterOptional isNameQuote behind with
      | [] => true
      | c :: _ => Text.isBlank c || c == ','

def hasRankingAlias : List Char → Bool
  | [] => false
  | c :: rest => (c == ')' && beginsWithRankingName rest) || hasRankingAlias rest

/-- The check of a text that cannot be read as SQL. -/
def looksRanked (text : List Char) : Bool :=
  hasRankingCall false text && hasRankingAlias text

def hasRankingColumn (text : String) : Bool :=
  match parse text with
  | some statements => statements.any Statement.hasRanking
  | none => looksRanked text.toList

end RemoteQuery.Sql
