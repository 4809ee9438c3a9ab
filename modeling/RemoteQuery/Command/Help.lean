set_option autoImplicit false

/-! What the command tells about itself.  The short form has an entry a line, with the
explanations in one column; the detailed form explains below the entry. -/

namespace RemoteQuery.Command

structure HelpEntry where
  label : String
  brief : String
  full : List String
  deriving Repr, DecidableEq, Inhabited

def HelpEntry.same (label explanation : String) : HelpEntry :=
  { label := label, brief := explanation, full := [explanation] }

def commandName : String := "athena-query"

def versionLine : String := commandName ++ " 0.1.0\n"

def helpArguments : List HelpEntry := [
  .same "  <SQL>" "SQL text, `?` placeholders are filled from --bind in order"]

def helpOptions : List HelpEntry := [
  { label := "      --mode <MODE>"
    brief := "[default: select] [possible values: select, statement, export]"
    full := [
      "[default: select]",
      "",
      "Possible values:",
      "- select:    Fetch and print the result rows",
      "- statement: Run for effect only",
      "- export:    Print the result artifact path without downloading it"] },
  .same "      --bind <BINDINGS>" "Positional binding value (repeatable)",
  .same "      --limit <LIMIT>" "",
  .same "      --offset <OFFSET>"
    "Needs a `ROW_NUMBER() OVER (...) AS rn` column in the statement",
  .same "      --dry-run" "Log the query without contacting Athena",
  .same "      --show-sql" "Print the statement that would be submitted and exit",
  { label := "  -h, --help"
    brief := "Print help (see more with '--help')"
    full := ["Print help (see a summary with '-h')"] },
  .same "  -V, --version" "Print version"]

def spaces (count : Nat) : String := String.ofList (List.replicate count ' ')

def briefLines (entries : List HelpEntry) : List String :=
  let width := entries.foldl (fun width entry => max width entry.label.length) 0 + 2
  entries.map fun entry => entry.label ++ spaces (width - entry.label.length) ++ entry.brief

def fullLines (entry : HelpEntry) : List String :=
  match entry.full with
  | [] => [entry.label]
  | first :: others =>
      entry.label :: (spaces 10 ++ first)
        :: others.map fun line => if line.isEmpty then "" else spaces 10 ++ line

def sectionLines (detailed : Bool) (entries : List HelpEntry) : List String :=
  if detailed then ((entries.map fullLines).intersperse [""]).flatten else briefLines entries

def helpText (detailed : Bool) : String :=
  let lines :=
    ["Run SQL against Athena and print the outcome as JSON", "",
      s!"Usage: {commandName} [OPTIONS] <SQL>", "", "Arguments:"]
      ++ sectionLines detailed helpArguments
      ++ ["", "Options:"]
      ++ sectionLines detailed helpOptions
  String.join (lines.map fun line => line ++ "\n")

end RemoteQuery.Command
