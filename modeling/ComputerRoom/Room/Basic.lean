import ComputerRoom.Directory.Record
import ComputerRoom.Endpoint.Event
import ComputerRoom.Endpoint.Lifecycle
import ComputerRoom.Endpoint.Order
import ComputerRoom.Room.Failure

/-! A room of supervised machines, kept in the order of their names. -/

namespace ComputerRoom

/-- Effects in order, each with the host whose endpoint caused it. -/
abbrev Trace := List (String × Effect)

/-- The effects of a reaction with the host they concern. -/
def Reaction.trace (reaction : Reaction) : Trace :=
  reaction.effects.map fun effect => (reaction.endpoint.ip, effect)

/-- A room under supervision: its record and its endpoints, in ascending order of their names. -/
structure Room where
  record : RoomListing
  endpoints : List Endpoint
  deriving Repr, DecidableEq

namespace Room

/-- The endpoint of a name. -/
def endpoint? (room : Room) (name : String) : Option Endpoint :=
  room.endpoints.find? fun endpoint => endpoint.name == name

/-- Puts an endpoint where its name belongs. -/
def insert (endpoint : Endpoint) : List Endpoint → List Endpoint
  | [] => [endpoint]
  | other :: rest =>
    if endpoint.name < other.name then endpoint :: other :: rest else other :: insert endpoint rest

/-- Puts an endpoint in the place of the one with its name. -/
def replace (room : Room) (endpoint : Endpoint) : Room :=
  { room with
    endpoints := room.endpoints.map fun other =>
      if other.name == endpoint.name then endpoint else other }

/-- The endpoints that are known to show a flag, in the order of their names. -/
def showing (room : Room) (flag : Flag) : List Endpoint :=
  room.endpoints.filter (·.shows flag)

/-- Whether any machine shows that a demo is running on it. -/
def demoActive (room : Room) : Bool :=
  room.endpoints.any fun endpoint => endpoint.shows .demoServer || endpoint.shows .demoClient

/-- Closes every endpoint, in the order of their names. -/
def close (room : Room) : Room × Trace :=
  let reactions := room.endpoints.map (·.close)
  ({ room with endpoints := reactions.map (·.endpoint) }, reactions.flatMap (·.trace))

/-- Gives orders to endpoints by name, one after the other, passing over those not ready. -/
def performAll (settings : Settings) (room : Room) : List (String × Order) → Room × Trace
  | [] => (room, [])
  | (name, order) :: rest =>
    match room.endpoint? name with
    | none => room.performAll settings rest
    | some endpoint =>
      let reaction := (endpoint.perform settings order).2
      let (after, trace) := (room.replace reaction.endpoint).performAll settings rest
      (after, reaction.trace ++ trace)

end Room

end ComputerRoom
