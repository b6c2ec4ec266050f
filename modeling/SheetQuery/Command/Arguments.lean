/-!
# Arguments

How the words after the name of a command are taken apart. An option begins with two hyphens; its value follows an equals
sign or is the next word. All other words are values by their position, and after two hyphens alone all words are. A value
is settled when the next one begins or the words end, so a word that is not known is told before the value in front of it.
-/

namespace SheetQuery.Command

/-- Why words are no command. -/
inductive UsageError where
  /-- Help was asked for. -/
  | help
  /-- The version was asked for. -/
  | version
  /-- There were no words. -/
  | helpOnMissing
  | unknownArgument (word : String)
  | unknownCommand (word : String)
  | missingArgument (name : String)
  /-- A value that is not among those that are possible, or missing altogether. -/
  | invalidValue (name : String)
  /-- A value that cannot be read. -/
  | unreadableValue (name value : String)
  /-- A value that is there already. -/
  | repeated (name : String)
  /-- A value for something that takes none. -/
  | unexpectedValue (name : String)
  deriving Repr, DecidableEq

/-- An argument by its name: what is wrong with a value, if anything. -/
structure Argument where
  name : String
  check : String → Option UsageError

/-- The arguments of a command. -/
structure Grammar where
  options : List Argument
  /-- The options that can come more than once. -/
  repeatable : List String
  /-- The values by position, which must all be there. -/
  positions : List Argument

/-- Where reading stands. -/
structure Reading where
  /-- The argument that is read, with its value if that has come. -/
  pending : Option (Argument × Option String)
  settled : List (String × String)
  /-- How many values by position have come. -/
  position : Nat
  /-- Whether two hyphens alone have come. -/
  positionsOnly : Bool

namespace Reading

/-- Before the first word. -/
def start : Reading :=
  ⟨none, [], 0, false⟩

/-- The values that have been settled for an argument. -/
def values (reading : Reading) (name : String) : List String :=
  (reading.settled.filter fun entry => entry.1 == name).map Prod.snd

/-- Settles an argument. That it is there already is told before anything is told of its value. -/
def settleArgument (grammar : Grammar) (reading : Reading) (argument : Argument) (value : Option String) :
    Except UsageError Reading :=
  match value with
  | none => .error (.invalidValue argument.name)
  | some value =>
    if !grammar.repeatable.contains argument.name && !(reading.values argument.name).isEmpty then
      .error (.repeated argument.name)
    else
      match argument.check value with
      | some error => .error error
      | none => .ok { reading with settled := reading.settled ++ [(argument.name, value)], pending := none }

/-- Settles the argument that is read, if there is one. -/
def settle (grammar : Grammar) (reading : Reading) : Except UsageError Reading :=
  match reading.pending with
  | none => .ok reading
  | some (argument, value) => reading.settleArgument grammar argument value

/-- Takes a word as a value by position. -/
def takePosition (grammar : Grammar) (reading : Reading) (word : String) : Except UsageError Reading :=
  match grammar.positions[reading.position]? with
  | none => .error (.unknownArgument word)
  | some argument => do
    let reading ← reading.settle grammar
    return { reading with pending := some (argument, some word), position := reading.position + 1 }

/-- Takes an option, with the value behind its equals sign if there is one. -/
def takeOption (grammar : Grammar) (reading : Reading) (name : String) (attached : Option String) :
    Except UsageError Reading :=
  if name = "help" then
    match attached with
    | some _ => .error (.unexpectedValue name)
    | none => do
      let _ ← reading.settle grammar
      .error .help
  else
    match grammar.options.find? fun option => option.name == name with
    | none => .error (.unknownArgument name)
    | some option => do
      let reading ← reading.settle grammar
      match attached with
      | some value => reading.settleArgument grammar option (some value)
      | none => return { reading with pending := some (option, none) }

/-- Takes a word that begins with one hyphen: the only one that is known asks for help. -/
def takeShort (grammar : Grammar) (reading : Reading) (letters : List Char) : Except UsageError Reading :=
  match letters with
  | 'h' :: _ => do
    let _ ← reading.settle grammar
    .error .help
  | _ => .error (.unknownArgument (String.ofList ('-' :: letters)))

/-- The name of an option and what is behind its equals sign. -/
def splitOption (body : List Char) : String × Option String :=
  let name := String.ofList (body.takeWhile (· != '='))
  match body.dropWhile (· != '=') with
  | [] => (name, none)
  | _ :: value => (name, some (String.ofList value))

/-- Takes a word. -/
def take (grammar : Grammar) (reading : Reading) (word : String) : Except UsageError Reading :=
  if reading.positionsOnly then reading.takePosition grammar word
  else
    match word.toList with
    | ['-', '-'] => .ok { reading with positionsOnly := true }
    | '-' :: '-' :: body =>
      let (name, attached) := splitOption body
      reading.takeOption grammar name attached
    | '-' :: c :: letters => reading.takeShort grammar (c :: letters)
    | _ =>
      match reading.pending with
      | some (argument, none) => .ok { reading with pending := some (argument, some word) }
      | _ => reading.takePosition grammar word

end Reading

/-- Reads the words after the name of a command. -/
def Grammar.read (grammar : Grammar) (words : List String) : Except UsageError Reading := do
  let reading ← words.foldlM (fun reading word => reading.take grammar word) Reading.start
  let reading ← reading.settle grammar
  match grammar.positions.find? fun argument => (reading.values argument.name).isEmpty with
  | some argument => .error (.missingArgument argument.name)
  | none => .ok reading

end SheetQuery.Command
