import RemoteQuery.Json.Number
import RemoteQuery.Json.Quoted
set_option autoImplicit false

/-! JSON text.  The compact form has no blanks; the spread form puts every item on a
line of its own, indented by two spaces for each level. -/

namespace RemoteQuery.Json

mutual

def compactChars : Value → List Char
  | .null => "null".toList
  | .bool true => "true".toList
  | .bool false => "false".toList
  | .number number => number.written
  | .text text => quote text.toList
  | .list [] => ['[', ']']
  | .list (item :: rest) => '[' :: (compactChars item ++ compactItems rest)
  | .object [] => ['\x7b', '\x7d']
  | .object ((name, content) :: rest) =>
      '\x7b' :: (quote name.toList ++ ':' :: (compactChars content ++ compactFields rest))
  | .unusable => "null".toList

def compactItems : List Value → List Char
  | [] => [']']
  | item :: rest => ',' :: (compactChars item ++ compactItems rest)

def compactFields : List (String × Value) → List Char
  | [] => ['\x7d']
  | (name, content) :: rest =>
      ',' :: (quote name.toList ++ ':' :: (compactChars content ++ compactFields rest))

end

def compact (value : Value) : String := String.ofList (compactChars value)

def newLine (level : Nat) : List Char := '\n' :: List.replicate (2 * level) ' '

mutual

def spreadChars (level : Nat) : Value → List Char
  | .list (item :: rest) =>
      '[' :: (newLine (level + 1) ++ spreadChars (level + 1) item ++ spreadItems level rest)
  | .object ((name, content) :: rest) =>
      '\x7b' :: (newLine (level + 1) ++ quote name.toList ++ [':', ' ']
        ++ spreadChars (level + 1) content ++ spreadFields level rest)
  | value => compactChars value

def spreadItems (level : Nat) : List Value → List Char
  | [] => newLine level ++ [']']
  | item :: rest =>
      ',' :: (newLine (level + 1) ++ spreadChars (level + 1) item ++ spreadItems level rest)

def spreadFields (level : Nat) : List (String × Value) → List Char
  | [] => newLine level ++ ['\x7d']
  | (name, content) :: rest =>
      ',' :: (newLine (level + 1) ++ quote name.toList ++ [':', ' ']
        ++ spreadChars (level + 1) content ++ spreadFields level rest)

end

def spread (value : Value) : String := String.ofList (spreadChars 0 value)

end RemoteQuery.Json
