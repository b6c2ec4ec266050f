import SheetQuery.Command.Arguments
import SheetQuery.Decimal.Reading

/-!
# Commands

What the program can be told to do: serve, ingest once, decode a sheet, or show the plan of a query.
-/

namespace SheetQuery

open Decimal

/-- The sheets that can be decoded. -/
inductive Command.SheetKind where
  | currency
  | experience
  | faction
  | imageSet
  deriving Repr, DecidableEq

/-- The sheet of a name. -/
def Command.SheetKind.ofName? (name : String) : Option SheetKind :=
  match name with
  | "currency" => some .currency
  | "experience" => some .experience
  | "faction" => some .faction
  | "image-set" => some .imageSet
  | _ => none

/-- What to do. -/
inductive Command where
  | serve (config : String) (port : Option UInt16)
  | ingest (config : String)
  | decode (sheet : Command.SheetKind) (file : String)
  | plan (collection : String) (params : List (String × String))
  deriving Repr, DecidableEq

namespace Command

/-- Where the configuration is if nothing else is said. -/
def defaultConfigPath : String := "./census.json"

/-- A port: an integer of 64 bits that fits 16 bits without a sign. -/
def readPort? (value : String) : Option UInt16 :=
  match readInteger .i64 value.toList with
  | .ok n => if IntWidth.u16.holds n then some (UInt16.ofNat n.toNat) else none
  | .error _ => none

/-- A name and a value between which the first equals sign stands. -/
def readParam? (value : String) : Option (String × String) :=
  match Reading.splitOption value.toList with
  | (name, some value) => some (name, value)
  | (_, none) => none

/-- A path, which must not be empty. -/
def pathArgument (name : String) : Argument :=
  ⟨name, fun value => if value = "" then some (.invalidValue name) else none⟩

/-- A port. -/
def portArgument : Argument :=
  ⟨"port", fun value => if (readPort? value).isSome then none else some (.unreadableValue "port" value)⟩

/-- The name of a sheet. -/
def sheetArgument : Argument :=
  ⟨"sheet", fun value => if (SheetKind.ofName? value).isSome then none else some (.invalidValue "sheet")⟩

/-- A name and a value. -/
def paramArgument : Argument :=
  ⟨"param", fun value => if (readParam? value).isSome then none else some (.unreadableValue "param" value)⟩

/-- The arguments of `serve`. -/
def serveGrammar : Grammar :=
  ⟨[pathArgument "config", portArgument], [], []⟩

/-- The arguments of `ingest`. -/
def ingestGrammar : Grammar :=
  ⟨[pathArgument "config"], [], []⟩

/-- The arguments of `decode`. -/
def decodeGrammar : Grammar :=
  ⟨[], [], [sheetArgument, pathArgument "file"]⟩

/-- The arguments of `plan`. -/
def planGrammar : Grammar :=
  ⟨[paramArgument], ["param"], [⟨"collection", fun _ => none⟩]⟩

/-- The value of an argument that is there at most once. -/
def valueOf (reading : Reading) (name default : String) : String :=
  (reading.values name).headD default

/-- The command that words after its name make. -/
def ofWords? (name : String) (words : List String) : Option (Except UsageError Command) :=
  match name with
  | "serve" => some do
    let reading ← serveGrammar.read words
    return .serve (valueOf reading "config" defaultConfigPath) ((reading.values "port").head?.bind readPort?)
  | "ingest" => some do
    let reading ← ingestGrammar.read words
    return .ingest (valueOf reading "config" defaultConfigPath)
  | "decode" => some do
    let reading ← decodeGrammar.read words
    match SheetKind.ofName? (valueOf reading "sheet" "") with
    | some sheet => return .decode sheet (valueOf reading "file" "")
    | none => .error (.invalidValue "sheet")
  | "plan" => some do
    let reading ← planGrammar.read words
    return .plan (valueOf reading "collection" "") ((reading.values "param").filterMap readParam?)
  | _ => none

/-- The names of the commands. -/
def names : List String :=
  ["serve", "ingest", "decode", "plan", "help"]

/-- What the words after `help` lead to: the name of one command, or no word at all. -/
def helpError : List String → UsageError
  | [] => .help
  | [name] => if names.contains name then .help else .unknownCommand name
  | name :: word :: _ => if names.contains name then .unknownCommand word else .unknownCommand name

/-- What a word leads to that is the first and no command. -/
def firstWordError (word : String) : UsageError :=
  match word.toList with
  | '-' :: '-' :: body =>
    match Reading.splitOption body with
    | ("help", none) => .help
    | ("version", none) => .version
    | ("help", some _) => .unexpectedValue "help"
    | ("version", some _) => .unexpectedValue "version"
    | (name, _) => .unknownArgument name
  | '-' :: 'h' :: _ => .help
  | '-' :: 'V' :: _ => .version
  | '-' :: _ :: _ => .unknownArgument word
  | _ => .unknownCommand word

/-- The command that words make. -/
def read : List String → Except UsageError Command
  | [] => .error .helpOnMissing
  | ["--"] => .error .helpOnMissing
  | "--" :: word :: _ => .error (if names.contains word then .unknownArgument word else .unknownCommand word)
  | "help" :: words => .error (helpError words)
  | name :: words =>
    match ofWords? name words with
    | some result => result
    | none => .error (firstWordError name)

end Command

end SheetQuery
