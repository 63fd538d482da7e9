import ComputerRoom.Directory.Store
import ComputerRoom.Room.Supervisor

/-! Selecting the active room: one endpoint for each of its machines, opened at once. -/

namespace ComputerRoom

/-- What a room is supervised with: settings, perhaps a way to try addresses, and the time. -/
structure Equipment where
  settings : Settings
  prober : Option Prober
  now : Nat

/-- The endpoints opened so far for a room, and how many endpoints were created in all. -/
structure Opening where
  endpoints : List Endpoint
  trace : Trace
  created : Nat

namespace Opening

/--
Opens an endpoint for one member of a room. A member is left out if it is no known machine, has no
usable address, or bears the name of an earlier one.
-/
def addMember (equipment : Equipment) (directory : Directory) (opening : Opening) (id : String) :
    Opening :=
  match directory.machine id with
  | .error _ => opening
  | .ok machine =>
    match Endpoint.create opening.created equipment.now machine equipment.prober with
    | .error _ => opening
    | .ok endpoint =>
      if opening.endpoints.any (fun other => other.name == endpoint.name) then opening
      else
        let opened := endpoint.launch equipment.settings equipment.now
        ⟨Room.insert opened.endpoint opening.endpoints, opening.trace ++ opened.trace,
          opening.created + 1⟩

end Opening

namespace Supervisor

/-- Looks up the record of a room that has members. -/
def resolve (supervisor : Supervisor) (directory : Directory) (query : String) :
    Except RoomFailure RoomListing :=
  match directory.room query supervisor.school with
  | .error failure => .error (.ofQuery query failure)
  | .ok record => if record.memberIds.isEmpty then .error (.empty record.name) else .ok record

/--
Makes a room the active one and tells how many machines are supervised. The room that was active
before is closed in any case.
-/
def select (equipment : Equipment) (directory : Directory) (query : String)
    (supervisor : Supervisor) : Except RoomFailure Nat × Turn :=
  let cleared := supervisor.clear
  -- The old room is gone by now, so that a failure leaves none active.
  match cleared.supervisor.resolve directory query with
  | .error failure => (.error failure, cleared)
  | .ok record =>
    let opening := record.memberIds.foldl (Opening.addMember equipment directory)
      ⟨[], [], cleared.supervisor.created⟩
    let active := { cleared.supervisor with
      room := some ⟨record, opening.endpoints⟩
      created := opening.created }
    (.ok opening.endpoints.length,
      { cleared with supervisor := active, trace := cleared.trace ++ opening.trace })

end Supervisor

end ComputerRoom
