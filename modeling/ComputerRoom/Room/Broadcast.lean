import ComputerRoom.Room.Supervisor

/-! Broadcasting the screen of one machine of the room to the others. -/

namespace ComputerRoom

namespace Room

/-- The orders that end every demo: to servers, the recorded one last, and then to the clients. -/
def stopPlan (room : Room) (recorded : Option String) : List (String × Order) :=
  let shown := (room.showing .demoServer).map (·.name)
  -- The recorded server may not have reported its flag yet, or may be gone.
  let unseen := recorded.toList.filter fun name =>
    (room.endpoint? name).isSome && !shown.contains name
  (shown ++ unseen).map (·, .stopDemoServer) ++
    (room.showing .demoClient).map fun client => (client.name, .stopDemoClient)

/-- The machines that can watch the demo of a server: ready, able to show it, and not the server. -/
def audience (room : Room) (server : String) : List Endpoint :=
  room.endpoints.filter fun endpoint =>
    endpoint.name != server && endpoint.machine.platform.showsDemos && endpoint.isReady

/-- Whether a machine watches in a window: nobody can be named on it, or a teacher uses it. -/
def watchesInWindow (roster : Roster) (client : Endpoint) : Bool × Roster :=
  let anonymous := client.username.current.all fun user => Text.trim user == ""
  if anonymous then (true, roster) else client.hasTeacher roster

/-- The clients, each with whether it watches in a window, looked up in order. -/
def seated (roster : Roster) : List Endpoint → List (Endpoint × Bool) × Roster
  | [] => ([], roster)
  | client :: rest =>
    let (windowed, next) := watchesInWindow roster client
    let (others, last) := seated next rest
    ((client, windowed) :: others, last)

/-- The orders that start a demo: first to the server, then to its clients. -/
def startPlan (server : Endpoint) (clients : List (Endpoint × Bool)) (fullscreen : Bool) :
    List (String × Order) :=
  (server.name, .startDemoServer (clients.map fun (client, _) => client.ip)) ::
    clients.map fun (client, windowed) =>
      (client.name, .startDemoClient server.ip (fullscreen && !windowed))

end Room

namespace Supervisor

/-- Ends every demo that is recorded or shown, and forgets the recorded server. -/
def stopDemo (settings : Settings) (supervisor : Supervisor) : Turn :=
  match supervisor.room with
  | none => ⟨{ supervisor with demoServer := none }, [], []⟩
  | some room =>
    let (after, trace) := room.performAll settings (room.stopPlan supervisor.demoServer)
    ⟨{ supervisor with room := some after, demoServer := none }, trace, []⟩

/-- Ends every demo if there is one. -/
def stopDemoIfAny (settings : Settings) (supervisor : Supervisor) : Turn :=
  if supervisor.demoServer.isSome || supervisor.demoActive then supervisor.stopDemo settings
  else ⟨supervisor, [], []⟩

/-- Shows the screen of one machine of the active room on every other one that is ready. -/
def startDemo (settings : Settings) (roster : Roster) (server : String) (fullscreen : Bool)
    (supervisor : Supervisor) : Except RoomFailure Unit × Turn × Roster :=
  -- The old demo ends even if the new server turns out to be unknown.
  let stopped := supervisor.stopDemoIfAny settings
  let found := do
    let room ← stopped.supervisor.room
    return (room, ← room.endpoint? server)
  match found with
  | none => (.error (.unknownEndpoint server), stopped, roster)
  | some (room, host) =>
    let (clients, after) := Room.seated roster (room.audience server)
    let (demo, trace) := room.performAll settings (Room.startPlan host clients fullscreen)
    (.ok (), { stopped with
      supervisor := { stopped.supervisor with room := some demo, demoServer := some server }
      trace := stopped.trace ++ trace }, after)

end Supervisor

end ComputerRoom
