import RemoteQuery.Command.Arguments
import RemoteQuery.Command.Help
import RemoteQuery.Http.Service
import RemoteQuery.Json.Printer
import RemoteQuery.Settings.Variables
set_option autoImplicit false

/-! Running the command.  Arguments are read first, then the settings; then a connection
is opened and asked.  What it answers is written to the output, and so is its refusal.  A
fault in the arguments or settings leaves the output empty. -/

namespace RemoteQuery.Command

structure Report where
  exitCode : Nat
  output : String
  complaint : String
  deriving Repr, DecidableEq, Inhabited

namespace Report

def success (output : String) : Report := { exitCode := 0, output := output, complaint := "" }

def misuse : Report :=
  { exitCode := 2, output := ""
    complaint := s!"Usage: {commandName} [OPTIONS] <SQL>\n\nFor more information, try '--help'.\n" }

def ofMismatch (mismatch : SettingMismatch) : Report :=
  { exitCode := 1, output := "", complaint := s!"Error: {mismatch.message}\n" }

def ofError (error : QueryError) : Report :=
  { exitCode := 1, output := Json.spread (ErrorReport.ofError error).encode ++ "\n"
    complaint := error.message ++ "\n" }

/-- Arithmetic beyond 64 bits breaks the command off. -/
def ofOverflow (overflow : Overflow) : Report :=
  { exitCode := 101, output := "", complaint := overflow.message ++ "\n" }

def ofAnswer : CallResult String → Report
  | .ok text => success (text ++ "\n")
  | .error (.refused error) => ofError error
  | .error (.overflow overflow) => ofOverflow overflow

end Report

structure Outcome where
  report : Report
  calls : List Call
  peer : Http.Peer
  deriving Inhabited

def Outcome.withoutCalls (report : Report) (peer : Http.Peer) : Outcome :=
  { report := report, calls := [], peer := peer }

def showRecords (records : List Record) : String :=
  Json.spread (.list (records.map Record.encode))

def showFlag (flag : Bool) : String := if flag then "true" else "false"

namespace Invocation

def ask (invocation : Invocation) (connection : Connection) (service : Service Http.Peer)
    (session : Session Http.Peer) : Option (CallResult String × Session Http.Peer) :=
  let request := invocation.request
  if invocation.showSql then some (connection.prepare request, session)
  else match invocation.mode with
    | .select =>
        (connection.select service request session).map fun (result, session) =>
          (result.map showRecords, session)
    | .statement =>
        (connection.statement service request session).map fun (result, session) =>
          (result.map showFlag, session)
    | .exportPath => connection.exportPath service request session

/-- Open a connection and ask it.  A dry run only pretends. -/
def perform (invocation : Invocation) (settings : Settings) (peer : Http.Peer) :
    Option Outcome :=
  match Http.connect settings with
  | .error error => some (.withoutCalls (.ofError error) peer)
  | .ok service =>
      let staging := Staging.fresh (Place.ofText settings.storage.stagingPath)
      let opened := Session.opened settings peer staging
      let session := if invocation.dryRun then opened.setPretending true else opened
      (invocation.ask (Connection.ofSettings settings) service session).map
        fun (answer, after) =>
          { report := .ofAnswer answer, calls := after.world.calls, peer := after.world.remote }

end Invocation

/-- Run the command with arguments and variables; nothing when it waits for ever. -/
def run (arguments : List String) (environment : Environment) (peer : Http.Peer) :
    Option Outcome :=
  match Order.ofArguments arguments with
  | .misuse => some (.withoutCalls .misuse peer)
  | .help detailed => some (.withoutCalls (.success (helpText detailed)) peer)
  | .version => some (.withoutCalls (.success versionLine) peer)
  | .run invocation =>
      match Settings.ofEnvironment environment with
      | .error mismatch => some (.withoutCalls (.ofMismatch mismatch) peer)
      | .ok settings => invocation.perform settings peer

end RemoteQuery.Command
