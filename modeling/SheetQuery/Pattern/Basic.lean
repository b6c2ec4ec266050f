import SheetQuery.Pattern.CharSet

/-!
# Regular expressions

A regular expression says which texts match. Only whether a text contains a match is ever asked, so a repetition that
prefers to be short means the same as one that prefers to be long; yet they are told apart, as two expressions that differ
in that are not joined into one.
-/

namespace SheetQuery.Pattern

/-- A condition on a position that takes no character. -/
inductive Look where
  | textStart | textEnd
  | lineStart | lineEnd
  /-- Line ends as in `lineStart` and `lineEnd`, a carriage return with or without a line feed being one too. -/
  | crlfStart | crlfEnd
  | wordBoundary | notWordBoundary | wordStart | wordEnd | wordStartHalf | wordEndHalf
  deriving Repr, DecidableEq

/-- Whether a condition is about words. -/
def Look.isAboutWords : Look → Bool
  | .textStart | .textEnd | .lineStart | .lineEnd | .crlfStart | .crlfEnd => false
  | _ => true

/-- A regular expression. A sequence and alternatives are kept as a chain: the first of them is no chain of that kind. -/
inductive Regex where
  | empty
  /-- Characters one after the other, one at least. -/
  | literal (text : List Char)
  | set (chars : CharSet)
  /-- A condition; words can be those of the ASCII set. -/
  | look (condition : Look) (ascii : Bool)
  /-- At least `least` times, and no more than `most` times if that is given. -/
  | repeated (body : Regex) (least : Nat) (most : Option Nat) (greedy : Bool)
  /-- A group with its number. -/
  | group (index : Nat) (body : Regex)
  | seq (first rest : Regex)
  | alt (first rest : Regex)
  deriving Repr, DecidableEq

/-- The characters that make up words, of all scripts or of the ASCII set. -/
def wordSet (ascii : Bool) : CharSet :=
  if ascii then (CharSet.ascii? "word").getD .none else .word

/-- Whether there is a character, and it makes up words. -/
def isWordAt (ascii : Bool) (c : Option Char) : Bool :=
  match c with
  | some c => (wordSet ascii).holds c.toNat
  | none => false

/-- Whether a condition holds between two characters, either of which may be missing. -/
def Look.holds (look : Look) (ascii : Bool) (before after : Option Char) : Bool :=
  match look with
  | .textStart => before.isNone
  | .textEnd => after.isNone
  | .lineStart => before.isNone || before == some '\n'
  | .lineEnd => after.isNone || after == some '\n'
  | .crlfStart => before.isNone || before == some '\n' || (before == some '\r' && after != some '\n')
  | .crlfEnd => after.isNone || after == some '\r' || (after == some '\n' && before != some '\r')
  | .wordBoundary => isWordAt ascii before != isWordAt ascii after
  | .notWordBoundary => isWordAt ascii before == isWordAt ascii after
  | .wordStart => !isWordAt ascii before && isWordAt ascii after
  | .wordEnd => isWordAt ascii before && !isWordAt ascii after
  | .wordStartHalf => !isWordAt ascii before
  | .wordEndHalf => !isWordAt ascii after

namespace Regex

/-- The parts of a sequence. -/
def parts : Regex → List Regex
  | .empty => []
  | .seq first rest => first :: rest.parts
  | other => [other]

/-- The members of a choice. -/
def alternatives : Regex → List Regex
  | .alt first rest => first :: rest.alternatives
  | other => [other]

/-- How many characters a match has at least; none, if there is no match. -/
def leastLength : Regex → Option Nat
  | .empty | .look _ _ => some 0
  | .literal text => some text.length
  | .set chars => if chars.intervals.isEmpty then none else some 1
  | .repeated body least _ _ => body.leastLength.map (· * least)
  | .group _ body => body.leastLength
  | .seq first rest => do return (← first.leastLength) + (← rest.leastLength)
  | .alt first rest => do return min (← first.leastLength) (← rest.leastLength)

/-- How many characters a match has at most; none, if there is no bound or no match. -/
def mostLength : Regex → Option Nat
  | .empty | .look _ _ => some 0
  | .literal text => some text.length
  | .set chars => if chars.intervals.isEmpty then none else some 1
  | .repeated body _ most _ => do return (← body.mostLength) * (← most)
  | .group _ body => body.mostLength
  | .seq first rest => do return (← first.mostLength) + (← rest.mostLength)
  | .alt first rest => do return max (← first.mostLength) (← rest.mostLength)

/-- Whether a match can only be at the start of the text, as far as can be seen from how it begins. -/
def isAtStart : Regex → Bool
  | .look condition _ => condition == .textStart
  | .repeated body least _ _ => 0 < least && body.isAtStart
  | .group _ body => body.isAtStart
  | .seq first rest => first.isAtStart || (first.mostLength == some 0 && rest.isAtStart)
  | .alt first rest => first.isAtStart && rest.isAtStart
  | .empty | .literal _ | .set _ => false

/-- Whether a match can only be at the end of the text, as far as can be seen from how it ends. -/
def isAtEnd : Regex → Bool
  | .look condition _ => condition == .textEnd
  | .repeated body least _ _ => 0 < least && body.isAtEnd
  | .group _ body => body.isAtEnd
  | .seq first rest => rest.isAtEnd || (first.isAtEnd && rest.mostLength == some 0)
  | .alt first rest => first.isAtEnd && rest.isAtEnd
  | .empty | .literal _ | .set _ => false

/-- How many nodes an expression has. -/
def size : Regex → Nat
  | .repeated body _ _ _ | .group _ body => body.size + 1
  | .seq first rest | .alt first rest => first.size + rest.size + 1
  | .empty | .literal _ | .set _ | .look _ _ => 1

end Regex

end SheetQuery.Pattern
