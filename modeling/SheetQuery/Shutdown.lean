/-!
# Shutdown

A switch is thrown once, and all signals that hang on it see so from then on. A switch that is gone was thrown before or
never will be; a signal of its own hangs on none and is never seen to fire.
-/

namespace SheetQuery

/-- A signal hangs on the switch or on nothing. -/
inductive Signal where
  | onSwitch
  | never
  deriving Repr, DecidableEq

/-- A switch with its signals. -/
structure Shutdown where
  thrown : Bool
  /-- Whether there still is a switch to throw. -/
  held : Bool
  signals : List Signal
  deriving Repr, DecidableEq

namespace Shutdown

/-- A switch that has not been thrown, with one signal. -/
def start : Shutdown :=
  ⟨false, true, [.onSwitch]⟩

/-- Throws the switch, if it is there. -/
def trigger (shutdown : Shutdown) : Shutdown :=
  { shutdown with thrown := shutdown.thrown || shutdown.held }

/-- Lets go of the switch, which does not throw it. -/
def drop (shutdown : Shutdown) : Shutdown :=
  { shutdown with held := false }

/-- Adds a signal that never fires. -/
def addNever (shutdown : Shutdown) : Shutdown :=
  { shutdown with signals := shutdown.signals ++ [.never] }

/-- Adds a signal that hangs where the last one does. -/
def clone (shutdown : Shutdown) : Shutdown :=
  { shutdown with signals := shutdown.signals ++ shutdown.signals.getLast?.toList }

/-- Adds a signal to the switch, if it is there. -/
def subscribe (shutdown : Shutdown) : Shutdown :=
  if shutdown.held then { shutdown with signals := shutdown.signals ++ [.onSwitch] } else shutdown

/-- Whether a signal has fired, which is also whether waiting for it ends. -/
def isTriggered (shutdown : Shutdown) : Signal → Bool
  | .onSwitch => shutdown.thrown
  | .never => false

end Shutdown

end SheetQuery
