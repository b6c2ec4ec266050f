import SheetQuery.Command.Run
import SheetQuery.Text.Moment

/-!
# The program

The words of the command line say what to do. All files that a command may need are read first; what it prints is then
settled. The exit code is zero if all went well, one if the command failed, and two if the words are no command.
-/

namespace SheetQuery

open Command Sheet

/-- What is said of a file that cannot be read. -/
def readProblem : IO.Error → String
  | .inappropriateType _ 21 _ => "Is a directory (os error 21)"
  | .inappropriateType _ _ _ => "Not a directory (os error 20)"
  | .permissionDenied _ _ _ => "Permission denied (os error 13)"
  | error => toString error

/-- What is at a path. -/
def readContent (path : String) : IO FileContent := do
  match ← (IO.FS.readBinFile path).toBaseIO with
  | .ok content => return .bytes content.toList
  | .error (.noFileOrDirectory _ _ _) => return .missing
  | .error error => return .unreadable (readProblem error)

/-- The files that ingestion needs: the configuration and the sheets that it leads to. -/
def readIngestionFiles (configPath : String) : IO (String → FileContent) := do
  let config ← readContent configPath
  let names := [Currency.fileName, Experience.fileName, Faction.fileName, ImageSetMapping.fileName]
  let paths := match Config.load configPath config with
    | .ok config => names.map (joinPath config.datasheetDir)
    | .error _ => []
  let sheets ← paths.mapM fun path => return (path, ← readContent path)
  return fun path => (((configPath, config) :: sheets).lookup path).getD .missing

/-- The time of day. -/
def timeOfDay : IO String := do
  let now ← Std.Time.Timestamp.now
  return Text.moment (Std.Time.PlainDateTime.ofWallTime (now.toWallTime .zero))

/-- Writes a log. -/
def writeLog (log : List Log.Entry) : IO Unit := do
  for entry in log do
    if entry.severity.isFailure then IO.eprint entry.line else IO.print entry.line

/-- Tells why a command failed. -/
def fail (error : CommandError) : IO UInt32 := do
  IO.eprintln (error.code ++ ": " ++ error.message)
  return 1

/-- Writes what a command prints. -/
def finish (outcome : Outcome) : IO UInt32 := do
  IO.print outcome.stdout
  IO.eprint outcome.stderr
  match outcome.result with
  | .ok _ => return 0
  | .error error => fail error

/-- Writes a response: the status, the headers, and behind an empty line the body. -/
def writeResponse (response : Service.HttpResponse) : IO Unit := do
  IO.println (toString response.status)
  for (name, value) in response.headers do
    IO.println (name ++ ": " ++ value)
  IO.println ""
  IO.println response.body

/-- The request in a line: a method, a space, and a target. A line of another form has no method. -/
def readRequest (line : String) : Service.Request :=
  match Text.pieces ' ' (String.ofList (line.toList.filter fun c => c != '\r' && c != '\n')) with
  | [method, target] => ⟨method, target⟩
  | _ => ⟨"", ""⟩

/-- Answers requests, one a line of a method and a target, until the input ends. -/
partial def answerRequests (input : IO.FS.Stream) (server : Service.Server) : IO Unit := do
  let line ← input.getLine
  if line.isEmpty then return ()
  match server.respond? (← IO.monoMsNow) 0 (readRequest line) with
  | none =>
    IO.println "400"
    answerRequests input server
  | some (response, log, server) =>
    writeLog log
    writeResponse response
    (← IO.getStdout).flush
    answerRequests input server

/-- Ingests the sheets, and answers the requests of standard input. -/
def serve (configPath : String) (port : Option UInt16) : IO UInt32 := do
  let files ← readIngestionFiles configPath
  let (log, server) := openServer files (← timeOfDay) configPath port
  writeLog log
  match server with
  | .error error => fail error
  | .ok server =>
    answerRequests (← IO.getStdin) server
    writeLog [⟨.info, .shutdownComplete, []⟩]
    return 0

/-- How the program is told what to do. -/
def usage : String :=
  String.join ((["Usage: sheetquery <COMMAND>", "", "Commands:",
    "  serve [--config <CONFIG>] [--port <PORT>]",
    "  ingest [--config <CONFIG>]",
    "  decode <SHEET> <FILE>",
    "  plan <COLLECTION> [--param <KEY=VALUE>]..."]).map (· ++ "\n"))

/-- What is wrong with words that are no command. -/
def usageProblem : UsageError → String
  | .help | .version | .helpOnMissing => ""
  | .unknownArgument word => "unexpected argument " ++ word
  | .unknownCommand word => "unrecognized subcommand " ++ word
  | .missingArgument name => "missing argument " ++ name
  | .invalidValue name => "invalid value for " ++ name
  | .unreadableValue name value => "invalid value " ++ value ++ " for " ++ name
  | .repeated name => name ++ " cannot be used multiple times"
  | .unexpectedValue name => name ++ " takes no value"

/-- Does what the words say. -/
def run (words : List String) : IO UInt32 := do
  match Command.read words with
  | .ok (.serve config port) => serve config port
  | .ok (.ingest config) =>
    finish (.ofIngest (← readIngestionFiles config) (← timeOfDay) config)
  | .ok (.decode kind file) => do
    let content ← readContent file
    finish (.ofDecode (fun _ => content) kind file)
  | .ok (.plan collection params) => finish (.ofPlan collection params)
  | .error .help =>
    IO.print usage
    return 0
  | .error .version =>
    IO.println "sheetquery 0.1.0"
    return 0
  | .error error =>
    IO.eprint (usageProblem error ++ "\n\n" ++ usage)
    return 2

end SheetQuery

/-- The program. -/
def main (words : List String) : IO UInt32 :=
  SheetQuery.run words
