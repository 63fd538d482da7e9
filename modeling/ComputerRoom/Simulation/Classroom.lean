import ComputerRoom.Room.Broadcast
import ComputerRoom.Room.Selection
import ComputerRoom.Room.Users
import ComputerRoom.Simulation.Report
import ComputerRoom.Simulation.WorldStep

/-! A simulation of a supervisor and its rooms in their surroundings. -/

namespace ComputerRoom

/-- An endpoint that someone holds on to by name. -/
inductive Held where
  /-- The endpoint of that name in the active room. -/
  | inRoom
  /-- An endpoint of a room that is no longer active. -/
  | leftOver (endpoint : Endpoint)
  deriving Repr, DecidableEq

/-- A supervisor in its surroundings, and the endpoints that someone holds on to. -/
structure Classroom where
  world : World
  prober : Option Prober
  supervisor : Supervisor
  held : List (String × Held)

/-- A step in a classroom. -/
inductive ClassroomStep where
  | world (step : WorldStep)
  | select (query : String)
  | setSchool (school : Option String)
  | clear
  | startDemo (server : String) (fullscreen : Bool)
  | stopDemo
  | usernames
  | ips (studentsOnly : Bool)
  /-- Every endpoint takes the flags that its agent would report. -/
  | relayFlags
  | user (lookup : String)
  | knownUsers
  | on (name : String) (step : EndpointStep String)
  | hold (name : String)
  | onHeld (name : String) (step : EndpointStep String)

namespace Classroom

/-- A classroom without an active room. -/
def new (settings : Settings) (roster : Roster) (prober : Option Prober) : Classroom :=
  ⟨.new settings roster, prober, .new, []⟩

/-- The equipment that rooms are supervised with at present. -/
def equipment (room : Classroom) : Equipment :=
  ⟨room.world.settings, room.prober, room.world.now⟩

/-- Turns a hold on an endpoint of the room just given up into a hold on that endpoint alone. -/
def loosen (released : List Endpoint) (entry : String × Held) : String × Held :=
  match entry with
  | (name, .inRoom) =>
    -- The hold lasts longer than the room, so that it keeps the endpoint by itself from now on.
    match released.find? fun endpoint => endpoint.name == name with
    | some endpoint => (name, .leftOver endpoint)
    | none => entry
  | _ => entry

/-- The classroom after a turn of its supervisor, and the report of it. -/
def afterTurn (room : Classroom) (answer : Answer) (turn : Turn) : Report × Classroom :=
  (.new answer turn.trace [],
    { room with
      world := room.world.observe turn.trace
      supervisor := turn.supervisor
      held := room.held.map (loosen turn.released) })

/-- Puts endpoints in the places of those of the active room. -/
def withEndpoints (supervisor : Supervisor) (endpoints : List Endpoint) : Supervisor :=
  { supervisor with room := supervisor.room.map fun room => { room with endpoints } }

/-- The address at which the demo of a machine in the active room is watched. -/
def locate (room : Classroom) (server : String) : Except Answer String :=
  match room.supervisor.endpoint? server with
  | some endpoint => .ok endpoint.ip
  | none => .error .absent

/-- The report of a step on an endpoint, and the surroundings after it. -/
def afterEndpointTurn (room : Classroom) (turn : EndpointTurn) : Report × Classroom :=
  let trace := turn.reaction.trace
  (.new turn.answer trace turn.woken,
    { room with world := { room.world with roster := turn.roster }.observe trace })

/-- Takes a step on an endpoint of the active room. -/
def takeOn (room : Classroom) (name : String) (step : EndpointStep String) : Report × Classroom :=
  match room.supervisor.endpoint? name with
  | none => (.new .absent [] [], room)
  | some endpoint =>
    let turn := endpoint.take room.world room.locate step
    let (report, after) := room.afterEndpointTurn turn
    (report, { after with
      supervisor := { after.supervisor with
        room := after.supervisor.room.map (·.replace turn.reaction.endpoint) } })

/-- Adds the cells of an endpoint to the answer of a report. -/
def showing (report : Report) (endpoint : Endpoint) : Report :=
  { report with answer := .beside report.answer endpoint.cells }

/-- Takes a step on an endpoint that someone holds on to. -/
def takeOnHeld (room : Classroom) (name : String) (step : EndpointStep String) :
    Report × Classroom :=
  match room.held.lookup name with
  | none => (.new .absent [] [], room)
  | some .inRoom =>
    -- The room has the endpoint, and the hold shows what has become of it.
    let (report, after) := room.takeOn name step
    match after.supervisor.endpoint? name with
    | some endpoint => (showing report endpoint, after)
    | none => (report, after)
  | some (.leftOver endpoint) =>
    let turn := endpoint.take room.world room.locate step
    let (report, after) := room.afterEndpointTurn turn
    (showing report turn.reaction.endpoint, { after with
      held := after.held.map fun (other, held) =>
        if other == name then (other, .leftOver turn.reaction.endpoint) else (other, held) })

/-- The effects of letting go of a held endpoint; one in the active room is kept by the room. -/
def dropHeld : Held → Trace
  | .inRoom => []
  | .leftOver endpoint => endpoint.drop.trace

/-- Holds on to an endpoint of the active room in place of one held under the same name. -/
def hold (room : Classroom) (name : String) : Report × Classroom :=
  match room.supervisor.endpoint? name with
  | none => (.new (.boolean false) [] [], room)
  | some _ =>
    -- Whatever was held under the name is let go before the new hold is noted.
    let trace := ((room.held.lookup name).map dropHeld).getD []
    (.new (.boolean true) trace [],
      { room with
        world := room.world.observe trace
        held := room.held.filter (fun (other, _) => other != name) ++ [(name, .inRoom)] })

/-- Has every endpoint take the flags that its agent would report. -/
def relayFlags (room : Classroom) : Report × Classroom :=
  let reactions := room.supervisor.endpoints.map fun endpoint =>
    (endpoint.takeFlags (room.world.agents.onHost endpoint.ip).mask).2
  (.new .nothing (reactions.flatMap (·.trace)) [],
    { room with supervisor := withEndpoints room.supervisor (reactions.map (·.endpoint)) })

/-- Takes one step. -/
def take (room : Classroom) : ClassroomStep → Report × Classroom
  | .world step =>
    let (answer, scene) := room.world.take room.supervisor.endpoints step
    (.new answer scene.trace [],
      { room with
        world := scene.world
        supervisor := withEndpoints room.supervisor scene.endpoints })
  | .select query =>
    let (selected, turn) :=
      room.supervisor.select room.equipment room.world.roster.directory query
    let answer := match selected with
      | .ok count => .count count
      | .error failure => .failedRoom failure
    room.afterTurn answer turn
  | .setSchool school => room.afterTurn .nothing (room.supervisor.setSchool school)
  | .clear => room.afterTurn .nothing room.supervisor.clear
  | .startDemo server fullscreen =>
    let (started, turn, roster) :=
      room.supervisor.startDemo room.world.settings room.world.roster server fullscreen
    { room with world := { room.world with roster } }.afterTurn (.ofRoom started) turn
  | .stopDemo => room.afterTurn .nothing (room.supervisor.stopDemo room.world.settings)
  | .usernames =>
    let (names, roster) := room.supervisor.usernames room.world.roster
    (.new (.texts names) [] [], { room with world := { room.world with roster } })
  | .ips studentsOnly =>
    let (ips, roster) := room.supervisor.ips room.world.roster studentsOnly
    (.new (.texts ips) [] [], { room with world := { room.world with roster } })
  | .relayFlags => room.relayFlags
  | .user lookup =>
    let (found, roster) := room.world.roster.get lookup
    let answer := match found with
      | .ok facts => .user facts
      | .error failure => .failedLookup failure
    (.new answer [] [], { room with world := { room.world with roster } })
  | .knownUsers => (.new (.count room.world.roster.book.entries.length) [] [], room)
  | .on name step => room.takeOn name step
  | .hold name => room.hold name
  | .onHeld name step => room.takeOnHeld name step

/-- Drops the supervisor and every endpoint, held ones included. -/
def drop (room : Classroom) : Classroom :=
  -- An endpoint that is held while it is in the room is dropped with the room, and only once.
  let trace := room.supervisor.endpoints.flatMap (·.drop.trace) ++
    room.held.flatMap fun (_, held) => dropHeld held
  { room with world := room.world.observe trace, supervisor := .new, held := [] }

end Classroom

end ComputerRoom
