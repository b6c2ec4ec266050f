import SheetQuery.Json.Reader
import SheetQuery.Pattern.Basic
import SheetQuery.Text.Blank

/-!
# Flags and escapes

What is in force while a pattern is read, and what a backslash and what follows it stand for.
-/

namespace SheetQuery.Pattern

open Text

/-- The flags in force. -/
structure Flags where
  caseInsensitive : Bool
  multiLine : Bool
  dotAll : Bool
  crlf : Bool
  /-- Whether classes hold characters of all scripts, not only of the ASCII set. -/
  allScripts : Bool
  /-- Whether white space and comments are passed over. -/
  verbose : Bool
  /-- Whether a repetition prefers to be short, unless it is marked. -/
  lazy : Bool
  deriving Repr, DecidableEq

/-- The flags at the beginning of a pattern. -/
def Flags.default : Flags :=
  ⟨false, false, false, false, true, false, false⟩

/-- A text from its first line end on. -/
def fromLineEnd (text : List Char) : List Char :=
  text.dropWhile (· != '\n')

/-- A text without the white space and the comments at its front, at most so many of them. -/
def skipVerbose : Nat → List Char → List Char
  | 0, text => text
  | n + 1, text =>
    match text with
    | '#' :: rest => skipVerbose n (fromLineEnd rest)
    | c :: rest => if isBlank c then skipVerbose n rest else text
    | [] => []

/-- A text without what the flags say to pass over at its front. -/
def Flags.skip (flags : Flags) (text : List Char) : List Char :=
  if flags.verbose then skipVerbose text.length text else text

/-- The characters that have a meaning of their own, and stand for themselves after a backslash. -/
def isMeta (c : Char) : Bool :=
  "\\.+*?()|[]\x7b\x7d^$#&-~".toList.contains c

/-- The characters that stand for themselves after a backslash: all of the ASCII set but letters, digits and angle
brackets. -/
def isEscapable (c : Char) : Bool :=
  isMeta c || (c.toNat < 0x80 && !c.isAlphanum && c != '<' && c != '>')

/-- What a backslash and what follows it stand for. -/
inductive Escape where
  | char (c : Char)
  /-- A number of two digits in base sixteen, which is a byte where classes do not hold all scripts. -/
  | byte (n : Nat)
  | chars (set : CharSet)
  | look (condition : Look)
  deriving Repr

/-- The character of a number, if there is one. -/
def charOfNat? (n : Nat) : Option Char :=
  if n.isValidChar then some (Char.ofNat n) else none

/-- The number that digits in base sixteen denote. -/
def hexNumber? (digits : List Char) : Option Nat :=
  digits.foldlM (fun n c => (Json.hexValue? c).map (n * 16 + ·)) 0

/-- A number of so many digits in base sixteen at the front of a text. -/
def readHexDigits (flags : Flags) : Nat → Nat → List Char → Option (Nat × List Char)
  | 0, value, text => some (value, text)
  | n + 1, value, text =>
    match flags.skip text with
    | [] => none
    | c :: rest => do readHexDigits flags n (value * 16 + (← Json.hexValue? c)) rest

/-- The escape that is a number: so many digits, or any number of them in braces. -/
def readHex (flags : Flags) (digits : Nat) (text : List Char) : Option (Escape × List Char) :=
  match flags.skip text with
  | '\x7b' :: rest =>
    let inside := rest.takeWhile (· != '\x7d')
    let shown := if flags.verbose then inside.filter (!isBlank ·) else inside
    match rest.dropWhile (· != '\x7d') with
    | [] => none
    | _ :: after => do
      if shown.isEmpty then none
      let c ← charOfNat? (← hexNumber? shown)
      return (.char c, after)
  | rest => do
    let (n, after) ← readHexDigits flags digits 0 rest
    if digits = 2 then return (.byte n, after)
    let c ← charOfNat? n
    return (.char c, after)

/-- A class by its letter. -/
def letterClass? (flags : Flags) (c : Char) : Option CharSet :=
  let named (all : CharSet) (ascii : String) : CharSet :=
    if flags.allScripts then all else (CharSet.ascii? ascii).getD .none
  let negated (set : CharSet) : Option CharSet :=
    if flags.allScripts then some set.complement else none
  if c = 'd' then some (named .digit "digit")
  else if c = 's' then some (named .blank "space")
  else if c = 'w' then some (named .word "word")
  else if c = 'D' then negated .digit
  else if c = 'S' then negated .blank
  else if c = 'W' then negated .word
  else none

/-- The condition that a word in braces after `\b` names. -/
def boundaryNamed? (name : String) : Option Look :=
  match name with
  | "start" => some .wordStart
  | "end" => some .wordEnd
  | "start-half" => some .wordStartHalf
  | "end-half" => some .wordEndHalf
  | _ => none

/-- The escape `\b`, which a word in braces may follow. Braces with anything else in them belong to a repetition. -/
def readBoundary (flags : Flags) (text : List Char) : Option (Escape × List Char) :=
  let isNameChar (c : Char) : Bool := c.isAlpha || c == '-'
  match text with
  | '\x7b' :: rest =>
    match flags.skip rest with
    | [] => none
    | c :: tail =>
      if isNameChar c then do
        let inside := (c :: tail).takeWhile fun c => isNameChar c || (flags.verbose && isBlank c)
        match (c :: tail).dropWhile fun c => isNameChar c || (flags.verbose && isBlank c) with
        | '\x7d' :: after => do
          let condition ← boundaryNamed? (String.ofList (inside.filter isNameChar))
          return (.look condition, after)
        | _ => none
      else some (.look .wordBoundary, text)
  | _ => some (.look .wordBoundary, text)

/-- The escape whose backslash has been read. -/
def readEscape (flags : Flags) : List Char → Option (Escape × List Char)
  | [] => none
  | c :: rest =>
    match letterClass? flags c with
    | some set => some (.chars set, rest)
    | none =>
      if c = 'x' then readHex flags 2 rest
      else if c = 'u' then readHex flags 4 rest
      else if c = 'U' then readHex flags 8 rest
      else if isEscapable c then some (.char c, rest)
      else if c = 'a' then some (.char (Char.ofNat 0x07), rest)
      else if c = 'f' then some (.char (Char.ofNat 0x0c), rest)
      else if c = 't' then some (.char '\t', rest)
      else if c = 'n' then some (.char '\n', rest)
      else if c = 'r' then some (.char '\r', rest)
      else if c = 'v' then some (.char (Char.ofNat 0x0b), rest)
      else if c = 'A' then some (.look .textStart, rest)
      else if c = 'z' then some (.look .textEnd, rest)
      else if c = 'b' then readBoundary flags rest
      else if c = 'B' then some (.look .notWordBoundary, rest)
      else if c = '<' then some (.look .wordStart, rest)
      else if c = '>' then some (.look .wordEnd, rest)
      else none

/-- The character that an escape stands for, if it is one. A byte past the ASCII set is none. -/
def Escape.char? (flags : Flags) : Escape → Option Char
  | .char c => some c
  | .byte n => if flags.allScripts || n < 0x80 then charOfNat? n else none
  | .chars _ | .look _ => none

end SheetQuery.Pattern
