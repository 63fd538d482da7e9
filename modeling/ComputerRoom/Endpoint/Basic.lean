import ComputerRoom.Endpoint.Failure
import ComputerRoom.Connection
import ComputerRoom.Network.Address

/-! One supervised machine: its connection, and what is known about it. -/

namespace ComputerRoom

/-- The name of one connect call: the endpoint that made it, and how many it had made by then. -/
structure SessionId where
  endpoint : Nat
  connect : Nat
  deriving Repr, DecidableEq

/-- What an endpoint holds of the way to its machine. -/
inductive Channel where
  | closed
  /-- A transport that no session is layered on. -/
  | transport
  /-- A session, which owns the transport beneath it. -/
  | session
  deriving Repr, DecidableEq

/-- Whether an endpoint's reports and checks are taken care of, and since when. -/
inductive Supervision where
  | idle
  | running (since : Nat)
  /-- Ended for good: it is started once at most. -/
  | ended
  deriving Repr, DecidableEq

/-- The supervised connection to one machine. -/
structure Endpoint where
  /-- A number that no other endpoint has. -/
  serial : Nat
  machine : Machine
  address : Address
  channel : Channel
  /-- How many times a transport was opened. -/
  connects : Nat
  supervision : Supervision
  state : Tracked Connection
  username : Tracked (Option String)
  homeFolder : Tracked (Option String)
  flags : Tracked (Option FlagMask)
  teacher : Tracked Bool
  /-- The time from which silence is counted. -/
  lastResponse : Nat
  /-- The addresses that may watch this machine's demo, in the order they were let in. -/
  viewers : List String
  deriving Repr, DecidableEq

namespace Endpoint

/-- A new endpoint for a machine, with nothing connected yet; the machine needs an address. -/
def create (serial now : Nat) (machine : Machine) (prober : Option Prober) :
    Except EndpointFailure Endpoint :=
  match machine.activeAddress? prober with
  | none => .error (.missingAddress machine.name)
  | some address => .ok {
      serial, machine, address
      channel := .closed
      connects := 0
      supervision := .idle
      state := .start .disconnected
      username := .start none
      homeFolder := .start none
      flags := .start none
      teacher := .start false
      lastResponse := now
      viewers := [] }

/-- The name of the machine. -/
def name (endpoint : Endpoint) : String :=
  endpoint.machine.name

/-- The address that the connection is made to. -/
def ip (endpoint : Endpoint) : String :=
  endpoint.address.ip

/-- The name of the latest connect call; before the first one it is a name nothing else has. -/
def session (endpoint : Endpoint) : SessionId :=
  ⟨endpoint.serial, endpoint.connects⟩

/-- Whether commands can be sent. -/
def isReady (endpoint : Endpoint) : Bool :=
  endpoint.state.current == .ready

/-- Whether the machine shows a flag, if it has reported its flags. -/
def flag (endpoint : Endpoint) (flag : Flag) : Option Bool :=
  endpoint.flags.current.map (·.contains flag)

/-- Whether the machine is known to show a flag. -/
def shows (endpoint : Endpoint) (flag : Flag) : Bool :=
  endpoint.flag flag == some true

/-- Whether state, flags, user or teacher changed since last asked; every one of them is settled. -/
def poll (endpoint : Endpoint) : Bool × Endpoint :=
  let changed := endpoint.state.pending || endpoint.flags.pending || endpoint.username.pending ||
    endpoint.teacher.pending
  (changed, { endpoint with
    state := endpoint.state.settle
    flags := endpoint.flags.settle
    username := endpoint.username.settle
    teacher := endpoint.teacher.settle })

/-- Forgets who is logged in and what the machine shows. -/
def forgetUser (endpoint : Endpoint) : Endpoint :=
  { endpoint with
    username := endpoint.username.reset none
    homeFolder := endpoint.homeFolder.reset none
    flags := endpoint.flags.reset none
    teacher := endpoint.teacher.reset false }

end Endpoint

end ComputerRoom
