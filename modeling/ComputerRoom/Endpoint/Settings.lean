import ComputerRoom.Config.Basic

/-! The ports and times that every supervised connection shares. -/

namespace ComputerRoom

/-- Ports, and times in milliseconds, with the clock that they are counted on. -/
structure Settings where
  vncPort : Nat
  demoPort : Nat
  /-- How often a picture of the screen is refreshed. -/
  frameInterval : Nat
  /-- How often a ready connection is checked. -/
  pollInterval : Nat
  /-- How long a ready connection may stay silent before it is opened anew. -/
  liveTimeout : Nat
  /-- The last moment that the clock can tell. -/
  clockEnd : Nat
  deriving Repr, DecidableEq

namespace Settings

/-- The shortest poll interval and timeout. -/
def shortestPeriod : Nat := 1000

/-- How many seconds the clock can count: as many as sixty-three bits can tell. -/
def clockRange : Nat := 9223372036854775807

/--
The settings that a configuration asks for, with no period shorter than the shortest. The clock had
been counting for so many seconds when times begin, by default for an hour.
-/
def ofConfig (config : Config) (uptime : Nat := 3600) : Settings where
  vncPort := config.vnc.port.toNat
  demoPort := config.vnc.demoPort.toNat
  frameInterval := config.vnc.frameSeconds.toNat * 1000
  pollInterval := max (config.liveness.pollSeconds.toNat * 1000) shortestPeriod
  liveTimeout := max (config.liveness.timeoutSeconds.toNat * 1000) shortestPeriod
  clockEnd := (clockRange - uptime) * 1000

/-- The silence that calls for a warning. -/
def warningSilence (settings : Settings) : Nat :=
  max (settings.liveTimeout / 2) shortestPeriod

/-- Whether a timeout that begins now would end after the clock does. -/
def outlastsClock (settings : Settings) (now : Nat) : Bool :=
  settings.clockEnd < now + settings.liveTimeout

end Settings

end ComputerRoom
