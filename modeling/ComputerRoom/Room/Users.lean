import ComputerRoom.Room.Supervisor

/-! Who works in the room, and at which addresses. -/

namespace ComputerRoom

namespace Room

/-- The login names of the users on some endpoints, as far as a name can be read. -/
def usernames (roster : Roster) : List Endpoint → List String × Roster
  | [] => ([], roster)
  | endpoint :: rest =>
    let (facts, next) := roster.facts? endpoint.username.current
    let (others, last) := usernames next rest
    (facts.toList.map (·.username) ++ others, last)

/-- The addresses of the endpoints that no teacher uses. -/
def studentIps (roster : Roster) : List Endpoint → List String × Roster
  | [] => ([], roster)
  | endpoint :: rest =>
    let (taught, next) := endpoint.hasTeacher roster
    let (others, last) := studentIps next rest
    (if taught then others else endpoint.ip :: others, last)

end Room

namespace Supervisor

/-- The login names of the users on the machines that are ready. -/
def usernames (roster : Roster) (supervisor : Supervisor) : List String × Roster :=
  Room.usernames roster (supervisor.endpoints.filter (·.isReady))

/-- The addresses of all machines, or only of those that no teacher uses. -/
def ips (roster : Roster) (studentsOnly : Bool) (supervisor : Supervisor) : List String × Roster :=
  if studentsOnly then Room.studentIps roster supervisor.endpoints
  else (supervisor.endpoints.map (·.ip), roster)

end Supervisor

end ComputerRoom
