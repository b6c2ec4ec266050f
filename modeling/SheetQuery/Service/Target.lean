import SheetQuery.Json.Source
import SheetQuery.Text.Split
import SheetQuery.Text.Utf8

/-!
# Request targets

What a request asks for: a path and a query, which may come after a scheme and an authority. The characters that can
stand in each part are limited. In a path and a query a byte can be written as a percent sign and two digits in base
sixteen.
-/

namespace SheetQuery.Service

open Text

/-- The path and the query that a request names. -/
structure Target where
  path : String
  /-- What stands behind the first question mark; nothing, if there is none. -/
  query : String
  deriving Repr, DecidableEq

/-! ## Percent signs -/

/-- The value of a byte that is a digit in base sixteen. -/
def hexByte? (b : UInt8) : Option Nat :=
  Json.hexValue? (Char.ofNat b.toNat)

/-- Bytes with those that are written as a percent sign and two digits. A percent sign without them stands for itself. -/
def percentDecode : List UInt8 → List UInt8
  | [] => []
  | first :: a :: b :: rest =>
    match hexByte? a, hexByte? b with
    | some high, some low =>
      if first = 0x25 then UInt8.ofNat (high * 16 + low) :: percentDecode rest
      else first :: percentDecode (a :: b :: rest)
    | _, _ => first :: percentDecode (a :: b :: rest)
  | first :: rest => first :: percentDecode rest

/-- A segment of a path, unless its bytes are not a text. -/
def decodeSegment? (segment : String) : Option String :=
  match decodeUtf8 (percentDecode (encodeUtf8 segment)) with
  | .ok text => some text
  | .error _ => none

/-- A name or a value of a query, in which a plus sign stands for a space. -/
def decodeComponent (component : List Char) : String :=
  let spaced := component.map fun c => if c = '+' then ' ' else c
  decodeLossy (percentDecode (encodeUtf8 (String.ofList spaced)))

/-- A pair of a query: the first equals sign ends the name. -/
def decodePair (pair : List Char) : String × String :=
  (decodeComponent (pair.takeWhile (· != '=')), decodeComponent ((pair.dropWhile (· != '=')).drop 1))

/-- The pairs of a query, which stand between ampersands; empty ones are none. -/
def Target.params (target : Target) : List (String × String) :=
  ((splitOn '&' target.query.toList).filter fun pair => !pair.isEmpty).map decodePair

/-! ## Reading -/

/-- Whether the number of a character is in a closed interval. -/
def between (first last : Nat) (c : Char) : Bool :=
  first ≤ c.toNat && c.toNat ≤ last

/-- The characters of a path: those past the ASCII set, and all but a few in it. -/
def isPathChar (c : Char) : Bool :=
  c == '!' || c == '"' || between 0x24 0x3b c || c == '=' || between 0x40 0x5f c || between 0x61 0x7e c
    || 0x80 ≤ c.toNat

/-- The characters of a query: those past the ASCII set, and all but a few in it. -/
def isQueryChar (c : Char) : Bool :=
  c == '!' || between 0x24 0x3b c || c == '=' || between 0x3f 0x7e c || 0x80 ≤ c.toNat

/-- The characters of a scheme. -/
def isSchemeChar (c : Char) : Bool :=
  c.isAlphanum || c == '+' || c == '-' || c == '.' || c == '~'

/-- The characters of an authority, apart from the percent sign. -/
def isAuthorityChar (c : Char) : Bool :=
  c.isAlphanum || "!$&'()*+,-.:;=@[]_~".toList.contains c

/-- The characters that end an authority. -/
def endsAuthority (c : Char) : Bool :=
  c == '/' || c == '?' || c == '#'

/-- A path and what may follow it. A fragment is passed over. -/
def readPathAndQuery (text : List Char) : Option Target :=
  let path := text.takeWhile fun c => c != '?' && c != '#'
  let path? := if path.all isPathChar then some path else none
  match text.dropWhile fun c => c != '?' && c != '#' with
  | '?' :: rest => do
    let query := rest.takeWhile (· != '#')
    if query.all isQueryChar then return ⟨String.ofList (← path?), String.ofList query⟩ else none
  | _ => path?.map fun path => ⟨String.ofList path, ""⟩

/-- What has been seen of an authority. -/
structure AuthorityScan where
  colons : Nat
  opened : Bool
  closed : Bool
  percent : Bool
  /-- Whether the last character was an at sign. -/
  afterAt : Bool

/-- What has been seen of an authority after one more character, if that can stand there. Colons and percent signs before
an at sign or a closing bracket are of no further account. -/
def AuthorityScan.next (scan : AuthorityScan) (c : Char) : Option AuthorityScan :=
  let scan := { scan with afterAt := c == '@' }
  if c = ':' then if 8 ≤ scan.colons then none else some { scan with colons := scan.colons + 1 }
  else if c = '[' then if scan.percent || scan.opened then none else some { scan with opened := true }
  else if c = ']' then
    if !scan.opened || scan.closed then none else some { scan with closed := true, colons := 0, percent := false }
  else if c = '@' then some { scan with colons := 0, percent := false }
  else if c = '%' then some { scan with percent := true }
  else if isAuthorityChar c then some scan
  else none

/-- The authority at the front of a text, if it is well-formed, and what follows it. -/
def readAuthority (text : List Char) : Option (List Char × List Char) := do
  let authority := text.takeWhile fun c => !endsAuthority c
  let scan ← authority.foldlM AuthorityScan.next ⟨0, false, false, false, false⟩
  if scan.opened != scan.closed || 1 < scan.colons || scan.afterAt || scan.percent then none
  else return (authority, text.dropWhile fun c => !endsAuthority c)

/-- The longest scheme that is taken. -/
def schemeLimit : Nat := 64

/-- What follows a scheme, if there is one, unless it is too long. -/
def afterScheme? (text : List Char) : Option (Option (List Char)) :=
  let scheme := text.takeWhile isSchemeChar
  match text.dropWhile isSchemeChar with
  | ':' :: '/' :: '/' :: rest => if schemeLimit < scheme.length then none else some (some rest)
  | _ => some none

/-- No target has more bytes than this. -/
def Target.limit : Nat := 65534

/-- The target that a text is. -/
def Target.read? (text : String) : Option Target :=
  if limit < text.utf8ByteSize then none
  else
    match text.toList with
    | [] => none
    | ['*'] => some ⟨"*", ""⟩
    | '/' :: rest => readPathAndQuery ('/' :: rest)
    | chars => do
      match ← afterScheme? chars with
      | none =>
        match ← readAuthority chars with
        | (_, []) => return ⟨"", ""⟩
        | _ => none
      | some rest =>
        match ← readAuthority rest with
        | ([], _) => none
        | (_, rest) =>
          let target ← readPathAndQuery rest
          return if target.path = "" then { target with path := "/" } else target

end SheetQuery.Service
