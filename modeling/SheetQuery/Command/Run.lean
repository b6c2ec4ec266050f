import SheetQuery.Command.Basic
import SheetQuery.Config
import SheetQuery.Ingest.Worker
import SheetQuery.Pattern.Engine
import SheetQuery.Query.Compile
import SheetQuery.Service.Address
import SheetQuery.Service.Router

/-!
# Running commands

What a command prints, given what the files are. A command that succeeds prints one JSON value; ingestion prints what it
logs on the way. A command that fails tells why under a code.
-/

namespace SheetQuery.Command

open Sheet Query Ingest

/-- Why a command failed. -/
inductive CommandError where
  | config (cause : ConfigError)
  | server (reason : String)
  | ingestion (cause : IngestError)
  | readInput (path reason : String)
  | decode (cause : SheetError)
  | query (cause : QueryError)

namespace CommandError

/-- The code of an error. -/
def code : CommandError → String
  | .config _ => "CENSUS_CLI_CONFIG_ERROR"
  | .server _ => "CENSUS_CLI_BOOT_FAILED"
  | .ingestion _ => "CENSUS_CLI_INGESTION_FAILED"
  | .readInput _ _ => "CENSUS_CLI_IO_ERROR"
  | .decode _ => "CENSUS_CLI_DECODE_FAILED"
  | .query _ => "CENSUS_CLI_QUERY_REJECTED"

/-- The wording of an error. -/
def message : CommandError → String
  | .config cause => cause.message
  | .server reason => "HTTP server failed: " ++ reason
  | .ingestion cause => cause.message
  | .readInput path reason => "Failed to read " ++ path ++ ": " ++ reason
  | .decode cause => cause.message
  | .query cause => cause.message

end CommandError

/-- What a command logs, and the value that it prints in the end. -/
structure Outcome where
  log : List Log.Entry
  result : Except CommandError Json

namespace Outcome

/-- What is written to standard output. -/
def stdout (outcome : Outcome) : String :=
  String.join (Log.lines false outcome.log) ++
    match outcome.result with
    | .ok value => value.indented ++ "\n"
    | .error _ => ""

/-- What is written to standard error, apart from the error itself. -/
def stderr (outcome : Outcome) : String :=
  String.join (Log.lines true outcome.log)

end Outcome

/-- What is said of a file that is not there. -/
def noSuchFile : String := "No such file or directory (os error 2)"

/-- The bytes of a file, or why it cannot be read. -/
def contentOf : FileContent → Except String (List UInt8)
  | .missing => .error noSuchFile
  | .unreadable reason => .error reason
  | .bytes content => .ok content

/-- The path of a file in a directory. An absolute name stands for itself. -/
def joinPath (directory name : String) : String :=
  if directory.isEmpty || name.startsWith "/" then name
  else if directory.endsWith "/" then directory ++ name
  else directory ++ "/" ++ name

/-- Reads the configuration at a path, and tells so. -/
def loadConfig (files : String → FileContent) (path : String) : List Log.Entry × Except CommandError Config :=
  let begun : Log.Entry := ⟨.info, .bootStart, []⟩
  match Config.load path (files path) with
  | .error cause => ([begun], .error (.config cause))
  | .ok config =>
    ([begun, ⟨.info, .configLoaded, [("datasheet_dir", config.datasheetDir), ("path", path)]⟩], .ok config)

/-- The world of a single cycle, in which sheets are files of a directory and nothing is called off. -/
def directoryWorld (files : String → FileContent) (directory time : String) : World Store where
  read name := pure ((contentOf (files (joinPath directory name))).mapError (.read name))
  isTriggered := pure false
  replace name documents := do
    modify (·.insert name documents)
    return .ok ()
  now := pure time
  wait _ := pure false

/-- One cycle at a time of day, with a store that has no collections before it. -/
def cycleOnce (files : String → FileContent) (directory time : String) :
    Except IngestError BuildReport × State Store :=
  (runCycle (directoryWorld files directory time) Builder.all).run.run ⟨Store.empty, ClientData.empty, []⟩

/-- Runs one cycle at a time of day, and tells what was built. -/
def Outcome.ofIngest (files : String → FileContent) (time : String) (configPath : String) : Outcome :=
  match loadConfig files configPath with
  | (log, .error error) => ⟨log, .error error⟩
  | (log, .ok config) =>
    let (result, state) := cycleOnce files config.datasheetDir time
    match result with
    | .error cause => ⟨log ++ state.log, .error (.ingestion cause)⟩
    | .ok report =>
      ⟨log ++ state.log, .ok (.obj [
        ("built", .arr (report.built.map .str)),
        ("failed", .arr (report.failed.map .str)),
        ("collections", .arr (state.world.listing.map Datatype.json))])⟩

/-- What answers requests once a configuration is read and the sheets are ingested, with the port in the place of the one
that is configured. Requests are answered also when ingestion has failed. -/
def openServer (files : String → FileContent) (time : String) (configPath : String) (port : Option UInt16) :
    List Log.Entry × Except CommandError Service.Server :=
  match loadConfig files configPath with
  | (log, .error error) => (log, .error error)
  | (log, .ok config) =>
    let address := { config.http with port := port.getD config.http.port }.address
    match Service.SocketAddress.read? address with
    | none => (log, .error (.server Service.SocketAddress.problem))
    | some _ =>
      let (result, state) := cycleOnce files config.datasheetDir time
      let ended := ((Policy.ofConfig config.ingestion).announcement? 0 result).toList
      let listing := ListingCache.empty (config.query.listingWindow.toNat * 1000)
      (log ++ ⟨.info, .serving, [("addr", address)]⟩ :: state.log ++ ended,
        .ok ⟨Catalog.builtin, Backend.ofStore state.world, listing⟩)

/-- The records of a sheet as a JSON value. -/
def decodeAs {α : Type} (shape : Shape α) (toJson : α → Json) (bytes : List UInt8) : Except CommandError Json :=
  match (decodeAll shape bytes Registry.empty).1 with
  | .ok records => .ok (.arr (records.map toJson))
  | .error cause => .error (.decode cause)

/-- The records of a sheet of a kind as a JSON value. -/
def decodeKind (kind : SheetKind) (bytes : List UInt8) : Except CommandError Json :=
  match kind with
  | .currency => decodeAs Currency.shape Currency.toJson bytes
  | .experience => decodeAs Experience.shape Experience.toJson bytes
  | .faction => decodeAs Faction.shape Faction.toJson bytes
  | .imageSet => decodeAs ImageSetMapping.shape ImageSetMapping.toJson bytes

/-- Decodes a sheet. -/
def Outcome.ofDecode (files : String → FileContent) (kind : SheetKind) (path : String) : Outcome :=
  match contentOf (files path) with
  | .error reason => ⟨[], .error (.readInput path reason)⟩
  | .ok bytes => ⟨[], decodeKind kind bytes⟩

/-- Shows the pipeline of a query. -/
def Outcome.ofPlan (collection : String) (params : List (String × String)) : Outcome :=
  match compile Catalog.builtin collection params with
  | .error cause => ⟨[], .error (.query cause)⟩
  | .ok compiled =>
    ⟨[], .ok (.obj [("collection", .str compiled.collection), ("pipeline", .arr compiled.pipeline)])⟩

end SheetQuery.Command
