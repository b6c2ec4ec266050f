import SheetQuery.Json.Reader
import SheetQuery.Text.FilePath
import SheetQuery.Text.Utf8

/-!
# Configuration

Where the sheets are, where to listen, and how often to ingest. Everything has a default, so a file that is missing or
says nothing is good; one that is there must be well-formed. A section is an object, or a list of its values in order. What
is not known is passed over, and a value that is given twice is an error.
-/

namespace SheetQuery

open Json

/-- Where to listen. -/
structure HttpConfig where
  host : String
  port : UInt16
  deriving Repr, DecidableEq

/-- The pace of ingestion; delays are in seconds. -/
structure IngestionConfig where
  /-- The delay after a cycle that failed. -/
  retryDelay : UInt64
  /-- How many cycles may fail in a row, the last of which ends ingestion. -/
  maxFailures : UInt32
  /-- The delay after a cycle that succeeded. -/
  refreshInterval : UInt64
  deriving Repr, DecidableEq

/-- How queries are answered. -/
structure QueryConfig where
  /-- How long a listing of the collections is used, in seconds. -/
  listingWindow : UInt64
  deriving Repr, DecidableEq

/-- A configuration. -/
structure Config where
  datasheetDir : String
  http : HttpConfig
  ingestion : IngestionConfig
  query : QueryConfig
  deriving Repr, DecidableEq

/-- Why there is no configuration. -/
inductive ConfigError where
  | read (path reason : String)
  | malformed (path : String)
  | invalid (problem : String)
  deriving Repr, DecidableEq

/-- The wording of an error. -/
def ConfigError.message : ConfigError → String
  | .read path reason => "Failed to read config " ++ path ++ ": " ++ reason
  | .malformed path => "Invalid config JSON in " ++ path ++ ": <reason>"
  | .invalid problem => "Invalid config value: " ++ problem

/-- What a file system has at a path. -/
inductive FileContent where
  | missing
  | unreadable (reason : String)
  | bytes (content : List UInt8)

/-- What is said of bytes that are not the UTF-8 of a text. -/
def notUtf8 : String := "stream did not contain valid UTF-8"

/-- The address to listen at. -/
def HttpConfig.address (config : HttpConfig) : String :=
  config.host ++ ":" ++ toString config.port.toNat

namespace Config

/-- The configuration that says nothing. -/
def default : Config where
  datasheetDir := "./datasheets"
  http := ⟨"0.0.0.0", 5000⟩
  ingestion := ⟨15, 5, 60 * 60⟩
  query := ⟨60 * 60⟩

/-- Whether a configuration says what the default does, however it writes the path. -/
def isDefault (config : Config) : Bool :=
  Text.samePath config.datasheetDir default.datasheetDir
    && { config with datasheetDir := default.datasheetDir } == default

/-- A configuration as a JSON value. -/
def toJson (config : Config) : Json :=
  .obj [
    ("datasheet_dir", .str config.datasheetDir),
    ("http", .obj [("host", .str config.http.host), ("port", .ofNat config.http.port.toNat)]),
    ("ingestion", .obj [
      ("retry_delay_secs", .ofUInt64 config.ingestion.retryDelay),
      ("max_consecutive_failures", .ofUInt32 config.ingestion.maxFailures),
      ("refresh_interval_secs", .ofUInt64 config.ingestion.refreshInterval)]),
    ("query", .obj [("collection_cache_secs", .ofUInt64 config.query.listingWindow)])]

/-! ## Reading -/

/-- The members with their keys unescaped. -/
def unescapeKeys : List (List Char × Source) → Option (List (String × Source))
  | [] => some []
  | (key, value) :: members => do return (String.ofList (← unescape? key), value) :: (← unescapeKeys members)

/-- The value of a key, if it is there; it must not be there twice. -/
def single? (members : List (String × Source)) (key : String) : Option (Option Source) :=
  match members.filter fun member => member.1 == key with
  | [] => some none
  | [(_, value)] => some (some value)
  | _ => none

/-- The values of a section by their keys, or one after the other. -/
def section? (keys : List String) : Source → Option (List (Option Source))
  | .obj members => do keys.mapM (single? (← unescapeKeys members))
  | .arr items =>
    if items.length ≤ keys.length then
      some (items.map some ++ List.replicate (keys.length - items.length) none)
    else none
  | _ => none

/-- A value that may be missing. -/
def readOr {α : Type} (default : α) (read : Source → Option α) : Option Source → Option α
  | none => some default
  | some source => read source

/-- A text. -/
def readText? : Source → Option String
  | .str literal => (unescape? literal).map String.ofList
  | _ => none

/-- An integer without a sign, below a bound. -/
def readBelow? (bound : Nat) : Source → Option Nat
  | .num literal => do
    match (← literal? literal).number? with
    | some (.int value _) => if 0 ≤ value ∧ value < bound then some value.toNat else none
    | _ => none
  | _ => none

/-- The section that says where to listen. -/
def readHttp? (source : Source) : Option HttpConfig := do
  match ← section? ["host", "port"] source with
  | [host, port] =>
    let host ← readOr default.http.host readText? host
    let port ← readOr default.http.port (fun s => (readBelow? UInt16.size s).map UInt16.ofNat) port
    return ⟨host, port⟩
  | _ => none

/-- The section that says how to ingest. -/
def readIngestion? (source : Source) : Option IngestionConfig := do
  match ← section? ["retry_delay_secs", "max_consecutive_failures", "refresh_interval_secs"] source with
  | [retry, failures, refresh] =>
    let retry ← readOr default.ingestion.retryDelay (fun s => (readBelow? UInt64.size s).map UInt64.ofNat) retry
    let failures ← readOr default.ingestion.maxFailures (fun s => (readBelow? UInt32.size s).map UInt32.ofNat) failures
    let refresh ← readOr default.ingestion.refreshInterval (fun s => (readBelow? UInt64.size s).map UInt64.ofNat) refresh
    return ⟨retry, failures, refresh⟩
  | _ => none

/-- The section that says how to answer queries. -/
def readQuery? (source : Source) : Option QueryConfig := do
  match ← section? ["collection_cache_secs"] source with
  | [window] =>
    return ⟨← readOr default.query.listingWindow (fun s => (readBelow? UInt64.size s).map UInt64.ofNat) window⟩
  | _ => none

/-- The configuration that is written. -/
def ofSource? (source : Source) : Option Config := do
  match ← section? ["datasheet_dir", "http", "ingestion", "query"] source with
  | [directory, http, ingestion, query] =>
    let directory ← readOr default.datasheetDir readText? directory
    let http ← readOr default.http readHttp? http
    let ingestion ← readOr default.ingestion readIngestion? ingestion
    let query ← readOr default.query readQuery? query
    return ⟨directory, http, ingestion, query⟩
  | _ => none

/-- The configuration in a file. -/
def load (path : String) : FileContent → Except ConfigError Config
  | .missing => .ok default
  | .unreadable reason => .error (.read path reason)
  | .bytes content =>
    match Text.decodeUtf8 content with
    | .error _ => .error (.read path notUtf8)
    | .ok text =>
      match (Source.read? text).bind ofSource? with
      | none => .error (.malformed path)
      | some config =>
        if config.ingestion.maxFailures = 0 then
          .error (.invalid "ingestion.max_consecutive_failures must be > 0")
        else .ok config

end Config

end SheetQuery
