import RemoteQuery.Json.Number
import RemoteQuery.Json.Quoted
set_option autoImplicit false

/-! Reading JSON text.  A text is one value with blanks around its parts.  Every value
takes at least one character, so the length of the text bounds the nesting. -/

namespace RemoteQuery.Json

def isJsonBlank (c : Char) : Bool := c == ' ' || c == '\t' || c == '\n' || c == '\r'

def skipBlanks (text : List Char) : List Char := text.dropWhile isJsonBlank

def afterLiteral : List Char → List Char → Option (List Char)
  | [], text => some text
  | _ :: _, [] => none
  | expected :: word, c :: text => if c = expected then afterLiteral word text else none

def readText (text : List Char) : Option (Value × List Char) :=
  (readUnits text).map fun (units, rest) =>
    match charsOfUnits units with
    | some chars => (.text (String.ofList chars), rest)
    | none => (.unusable, rest)

def readName (text : List Char) : Option (String × List Char) :=
  match skipBlanks text with
  | '"' :: afterMark =>
      match readUnits afterMark with
      | some (units, rest) =>
          match charsOfUnits units, skipBlanks rest with
          | some chars, ':' :: behind => some (String.ofList chars, behind)
          | _, _ => none
      | none => none
  | _ => none

mutual

def readValue : Nat → List Char → Option (Value × List Char)
  | 0, _ => none
  | fuel + 1, text =>
      match skipBlanks text with
      | [] => none
      | c :: rest =>
          if c = '"' then readText rest
          else if c = '[' then
            match skipBlanks rest with
            | ']' :: behind => some (.list [], behind)
            | _ =>
                match readValue fuel rest with
                | some (item, behind) =>
                    (readItems fuel behind).map fun (items, final) =>
                      (.list (item :: items), final)
                | none => none
          else if c = '\x7b' then
            match skipBlanks rest with
            | '\x7d' :: behind => some (.object [], behind)
            | _ =>
                match readName rest with
                | some (name, afterName) =>
                    match readValue fuel afterName with
                    | some (content, behind) =>
                        (readFields fuel behind).map fun (fields, final) =>
                          (.object ((name, content) :: fields), final)
                    | none => none
                | none => none
          else if c = 'n' then (afterLiteral "ull".toList rest).map (.null, ·)
          else if c = 't' then (afterLiteral "rue".toList rest).map (.bool true, ·)
          else if c = 'f' then (afterLiteral "alse".toList rest).map (.bool false, ·)
          else readNumber (c :: rest)

def readItems : Nat → List Char → Option (List Value × List Char)
  | 0, _ => none
  | fuel + 1, text =>
      match skipBlanks text with
      | ']' :: rest => some ([], rest)
      | ',' :: rest =>
          match readValue fuel rest with
          | some (item, behind) =>
              (readItems fuel behind).map fun (items, final) => (item :: items, final)
          | none => none
      | _ => none

def readFields : Nat → List Char → Option (List (String × Value) × List Char)
  | 0, _ => none
  | fuel + 1, text =>
      match skipBlanks text with
      | '\x7d' :: rest => some ([], rest)
      | ',' :: rest =>
          match readName rest with
          | some (name, afterName) =>
              match readValue fuel afterName with
              | some (content, behind) =>
                  (readFields fuel behind).map fun (fields, final) =>
                    ((name, content) :: fields, final)
              | none => none
          | none => none
      | _ => none

end

def read? (text : String) : Option Value :=
  let chars := text.toList
  match readValue (chars.length + 1) chars with
  | some (value, rest) => if (skipBlanks rest).isEmpty then some value else none
  | none => none

end RemoteQuery.Json
