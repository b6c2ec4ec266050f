import SheetQuery.Pattern.Basic
import SheetQuery.Pattern.ByteRange

/-!
# Automata

An automaton reads the bytes of a text. It is put together from fragments, state by state, and its weight is known all
the while: no automaton weighs more than a limit.
-/

namespace SheetQuery.Pattern

/-- A step over one byte to another state. -/
structure Edge where
  range : ByteRange
  next : Nat
  deriving Repr, DecidableEq

/-- A state, which names those that follow by their numbers. -/
inductive State where
  /-- Another state follows at once. -/
  | pass (next : Nat)
  | byte (edge : Edge)
  /-- The step that the next byte allows, if there is one. -/
  | bytes (edges : List Edge)
  /-- Another state follows if a condition holds. -/
  | look (condition : Look) (ascii : Bool) (next : Nat)
  /-- Any of several states follows at once. -/
  | split (targets : Array Nat)
  | accept
  deriving Repr

/-- How much a state weighs. -/
def State.weight : State → Nat
  | .bytes edges => 32 + 8 * edges.length
  | .split targets => 32 + 4 * targets.size
  | _ => 32

/-- The state with one more state that follows it; only a split has room for several. -/
def State.withNext (next : Nat) : State → State
  | .pass _ => .pass next
  | .byte edge => .byte { edge with next := next }
  | .look condition ascii _ => .look condition ascii next
  | .split targets => .split (targets.push next)
  | .bytes edges => .bytes edges
  | .accept => .accept

/-- No automaton weighs more than this. -/
def weightLimit : Nat := 10 * 1024 * 1024

/-- The states of an automaton that is being put together, and their weight. -/
structure Draft where
  states : Array State
  weight : Nat

/-- A step in putting an automaton together; there is no result if it grows too heavy. -/
abbrev Assembly := StateT Draft Option

/-- A new state, by its number. -/
def addState (state : State) : Assembly Nat := fun draft =>
  let weight := draft.weight + state.weight
  if weightLimit < weight then none else some (draft.states.size, ⟨draft.states.push state, weight⟩)

/-- Whether a state is a split. -/
def State.isSplit : State → Bool
  | .split _ => true
  | _ => false

/-- A state follows another one. -/
def connect (before after : Nat) : Assembly Unit := fun draft =>
  let grows := (draft.states[before]?.map State.isSplit).getD false
  let weight := draft.weight + if grows then 4 else 0
  if weightLimit < weight then none else some ((), ⟨draft.states.modify before (·.withNext after), weight⟩)

/-- A part of an automaton, which is entered at its first state and left at its last. -/
structure Fragment where
  first : Nat
  last : Nat
  deriving Repr

/-- A fragment of one state. -/
def single (state : State) : Assembly Fragment := do
  let state ← addState state
  return ⟨state, state⟩

/-- A fragment, and then another one. -/
def andThen (before after : Assembly Fragment) : Assembly Fragment := do
  let before ← before
  let after ← after
  connect before.last after.first
  return ⟨before.first, after.last⟩

/-- A fragment followed by so many others of one kind. -/
def extend (more : Assembly Fragment) : Nat → Fragment → Assembly Fragment
  | 0, fragment => return fragment
  | n + 1, fragment => do
    let next ← more
    connect fragment.last next.first
    extend more n ⟨fragment.first, next.last⟩

/-- A fragment so many times. -/
def exactly (body : Assembly Fragment) : Nat → Assembly Fragment
  | 0 => single (.pass 0)
  | n + 1 => do extend body n (← body)

/-- A fragment or nothing. -/
def optionally (body : Assembly Fragment) : Assembly Fragment := do
  let split ← addState (.split #[])
  let body ← body
  let last ← addState (.pass 0)
  connect split body.first
  connect split last
  connect body.last last
  return ⟨split, last⟩

/-- A fragment any number of times, if it takes a byte each time. -/
def anyTimes (body : Assembly Fragment) : Assembly Fragment := do
  let split ← addState (.split #[])
  let body ← body
  connect split body.first
  connect body.last split
  return ⟨split, split⟩

/-- A fragment any number of times, though it may take no byte: not at all, or once and then again. -/
def anyTimesOrNone (body : Assembly Fragment) : Assembly Fragment := do
  let body ← body
  let again ← addState (.split #[])
  connect body.last again
  connect again body.first
  let split ← addState (.split #[])
  let last ← addState (.pass 0)
  connect split body.first
  connect split last
  connect again last
  return ⟨split, last⟩

/-- A fragment that may come again. -/
def orAgain (body : Assembly Fragment) : Assembly Fragment := do
  let body ← body
  let split ← addState (.split #[])
  connect body.last split
  connect split body.first
  return ⟨body.first, split⟩

/-- So many fragments more, each of which can be left out together with those that follow it. -/
def extendOptionally (more : Assembly Fragment) (last : Nat) : Nat → Nat → Assembly Nat
  | 0, before => return before
  | n + 1, before => do
    let split ← addState (.split #[])
    let body ← more
    connect before split
    connect split body.first
    connect split last
    extendOptionally more last n body.last

/-- A fragment as many times as lies between two numbers. -/
def between (body : Assembly Fragment) (least most : Nat) : Assembly Fragment := do
  let start ← exactly body least
  let last ← addState (.pass 0)
  let before ← extendOptionally body last (most - least) start.last
  connect before last
  return ⟨start.first, last⟩

/-- What has been put together of a choice. -/
inductive Junction where
  | nothing
  | member (fragment : Fragment)
  /-- The split before the members, and the state behind them. -/
  | members (split last : Nat)

/-- A choice with one more member. -/
def Junction.join (junction : Junction) (fragment : Fragment) : Assembly Junction :=
  match junction with
  | .nothing => return .member fragment
  | .member earlier => do
    let split ← addState (.split #[])
    let last ← addState (.pass 0)
    connect split earlier.first
    connect earlier.last last
    connect split fragment.first
    connect fragment.last last
    return .members split last
  | .members split last => do
    connect split fragment.first
    connect fragment.last last
    return .members split last

/-- The fragment that is a choice. -/
def Junction.close : Junction → Assembly Fragment
  | .nothing => single (.pass 0)
  | .member fragment => return fragment
  | .members split last => return ⟨split, last⟩

/-- An automaton. A text is read from the first state on. -/
structure Automaton where
  states : Array State
  start : Nat
  weight : Nat
  deriving Repr

end SheetQuery.Pattern
