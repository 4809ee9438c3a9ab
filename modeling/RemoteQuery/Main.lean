import RemoteQuery.Command.Run
import RemoteQuery.Http.Relay
import RemoteQuery.Http.Token
set_option autoImplicit false

/-! The command.  It tells its requests to a relay in lines on standard error, and reads
the answers in lines on standard input; the output is written at the end. -/

namespace RemoteQuery.Command

def assignmentFile : IO (Option String) := do
  try
    return some (← IO.FS.readFile ".env")
  catch _ => return none

def readEnvironment : IO Environment := do
  let file := (← assignmentFile).getD ""
  let mut given : Environment := []
  for name in Settings.variableNames ++ Environment.wordsOf file do
    if let some value := ← IO.getEnv name then
      given := given.complete name value
  return given.completeBy file

def awaitCall (clock : Nat) : Option Call → IO Nat
  | some (.poll _ due) => do
      IO.sleep (UInt32.ofNat (due - clock))
      return due
  | _ => return clock

def drawToken : IO String := do
  return Http.tokenOfBytes (← IO.getRandomBytes 16).toList

/-- Run the command against the answers so far; ask the relay for one more as long as a
request has none. -/
partial def converse (arguments : List String) (environment : Environment) (token : String)
    (clock : Nat) (answers : List Http.Response) : IO Report := do
  let peer : Http.Peer := { responses := answers, requests := [], token := token }
  let some outcome := run arguments environment peer
    | throw (IO.userError "the wait for an execution never ends")
  match outcome.peer.pending? answers.length with
  | none => return outcome.report
  | some request =>
      let clock ← awaitCall clock outcome.calls[answers.length]?
      (← IO.getStderr).putStrLn (Json.compact request.encode)
      let line ← (← IO.getStdin).getLine
      converse arguments environment token clock (answers ++ [.ofLine line])

end RemoteQuery.Command

open RemoteQuery Command in
def main (arguments : List String) : IO UInt32 := do
  let report ← converse arguments (← readEnvironment) (← drawToken) 0 []
  IO.print report.output
  IO.eprint report.complaint
  return UInt32.ofNat report.exitCode
