/-! The configuration of a supervisor, section by section, and its defaults. -/

namespace ComputerRoom

/-- Ports of the remote connections, and how often they refresh their pictures. -/
structure Config.Vnc where
  port : UInt16
  demoPort : UInt16
  frameSeconds : UInt64
  deriving Repr, DecidableEq

/-- How often a ready connection is checked, and how long it may stay silent. -/
structure Config.Liveness where
  pollSeconds : UInt64
  timeoutSeconds : UInt64
  deriving Repr, DecidableEq

/-- Whose screen may not be captured. -/
structure Config.Screenshots where
  hiddenGroups : List String
  hidesTeachers : Bool
  deriving Repr, DecidableEq

/-- Whether the addresses of a machine are tried before one is chosen. -/
structure Config.Addresses where
  checksClients : Bool
  deriving Repr, DecidableEq

/-- Where wake packets are sent from and to. -/
structure Config.Waking where
  skippedInterfaces : List String
  skippedStarts : List String
  broadcastTargets : List String
  deriving Repr, DecidableEq

/-- The configuration of a supervisor. -/
structure Config where
  vnc : Config.Vnc
  liveness : Config.Liveness
  screenshots : Config.Screenshots
  addresses : Config.Addresses
  waking : Config.Waking
  deriving Repr, DecidableEq

namespace Config

/-- The ports and refresh rate that hold unless others are given. -/
def Vnc.standard : Vnc := ⟨11100, 11400, 1⟩

/-- The check interval and timeout that hold unless others are given. -/
def Liveness.standard : Liveness := ⟨1, 10⟩

/-- The screens that are hidden unless others are given. -/
def Screenshots.standard : Screenshots := ⟨["Domain Admins"], true⟩

/-- Addresses are not tried unless asked for. -/
def Addresses.standard : Addresses := ⟨false⟩

/-- No interface is skipped, and no target is given, unless asked for. -/
def Waking.standard : Waking := ⟨[], [], []⟩

/-- The configuration that an empty file stands for. -/
def standard : Config :=
  ⟨Vnc.standard, Liveness.standard, Screenshots.standard, Addresses.standard, Waking.standard⟩

end Config

end ComputerRoom
