import ComputerRoom.FlagMask

/-! What a transport reports about its link, and the connection states that follow from it. -/

namespace ComputerRoom

/-- The ways a link can fail. -/
inductive LinkFailure where
  | connection
  | authentication
  | unreachable
  deriving Repr, DecidableEq

/-- The wording of a link failure. -/
def LinkFailure.message : LinkFailure → String
  | connection => "connection failed"
  | authentication => "authentication failed"
  | unreachable => "host unreachable"

/-- The state of a link as its transport reports it. -/
inductive LinkStatus where
  | disconnected
  | connected
  | failed (failure : LinkFailure)
  deriving Repr, DecidableEq

/-- The failure behind a link state, if it is a failed one. -/
def LinkStatus.failure? : LinkStatus → Option LinkFailure
  | failed failure => some failure
  | _ => none

/-- The state of the connection to a supervised machine; commands are sent only when it is ready. -/
inductive Connection where
  | disconnected
  | connected
  | connectionError
  | authError
  | unreachable
  | ready
  deriving Repr, DecidableEq

namespace Connection

/-- The state to start from. -/
def initial : Connection := disconnected

/-- Every connection state. -/
def all : List Connection :=
  [disconnected, connected, connectionError, authError, unreachable, ready]

/-- The name of a state as records carry it. -/
def name : Connection → String
  | disconnected => "disconnected"
  | connected => "connected"
  | connectionError => "error"
  | authError => "autherror"
  | unreachable => "offline"
  | ready => "ready"

/-- The state that a name stands for. -/
def ofName? (name : String) : Option Connection :=
  all.find? fun state => state.name == name

/-- Whether the link is up in this state. -/
def isUp : Connection → Bool
  | connected | ready => true
  | _ => false

/-- Whether this state is a failed attempt. -/
def isFailed : Connection → Bool
  | connectionError | authError | unreachable => true
  | _ => false

/-- The connection state that a reported link state stands for. -/
def ofLink : LinkStatus → Connection
  | .disconnected => disconnected
  | .connected => connected
  | .failed .connection => connectionError
  | .failed .authentication => authError
  | .failed .unreachable => unreachable

end Connection

/-- Something that the far side of a link reports. -/
inductive Signal where
  /-- The link changed its state. -/
  | state (state : LinkStatus)
  /-- Who is logged in, and that user's home folder; empty texts mean nobody. -/
  | identity (username homeFolder : String)
  /-- The machine's state flags. -/
  | flags (mask : FlagMask)
  deriving Repr, DecidableEq

end ComputerRoom
