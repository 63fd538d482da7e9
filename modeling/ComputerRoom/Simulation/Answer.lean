import ComputerRoom.Endpoint.Snapshot
import ComputerRoom.Simulation.Agent

/-! What the steps of a simulation answer. -/

namespace ComputerRoom

/-- The cells of an endpoint, and the viewers it let in. -/
structure Cells where
  state : Tracked Connection
  username : Tracked (Option String)
  homeFolder : Tracked (Option String)
  flags : Tracked (Option FlagMask)
  teacher : Tracked Bool
  viewers : List String
  deriving Repr, DecidableEq

/-- The cells of an endpoint at present. -/
def Endpoint.cells (endpoint : Endpoint) : Cells :=
  ⟨endpoint.state, endpoint.username, endpoint.homeFolder, endpoint.flags, endpoint.teacher,
    endpoint.viewers⟩

/-- The answer to one step. -/
inductive Answer where
  | nothing
  /-- The endpoint that a step is about does not exist. -/
  | absent
  | boolean (value : Bool)
  | maybe (value : Option Bool)
  | count (value : Nat)
  | texts (values : List String)
  | delivery (value : Delivery)
  | changes (flips : List (Flag × Bool))
  | image (octets : Option (List UInt8))
  | snapshot (view : Snapshot)
  | description (machine : Machine) (address : Address)
  | user (facts : UserFacts)
  | agents (agents : Agents)
  | failedLookup (failure : DirectoryFailure)
  | failedEndpoint (failure : EndpointFailure)
  | failedRoom (failure : RoomFailure)
  /-- An answer together with the cells of the endpoint that gave it. -/
  | beside (answer : Answer) (cells : Cells)

/-- The answer to a step that either succeeds with nothing to tell or fails in a room. -/
def Answer.ofRoom : Except RoomFailure Unit → Answer
  | .ok () => nothing
  | .error failure => failedRoom failure

end ComputerRoom
