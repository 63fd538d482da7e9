import ComputerRoom.Room.Basic

/-! The supervisor of a school's rooms: which room is active, and the demo recorded for it. -/

namespace ComputerRoom

/-- The supervisor: the school rooms are looked up in, the active room, and its demo server. -/
structure Supervisor where
  school : Option String
  room : Option Room
  /-- The name of the endpoint that a demo was last started on. -/
  demoServer : Option String
  /-- How many endpoints were created so far. -/
  created : Nat
  deriving Repr, DecidableEq

/-- A supervisor after an operation, the effects of the operation, and the endpoints it gave up. -/
structure Turn where
  supervisor : Supervisor
  trace : Trace
  /-- The closed endpoints of the room that is no longer active. -/
  released : List Endpoint
  deriving Repr, DecidableEq

namespace Supervisor

/-- A supervisor without a school or a room. -/
def new : Supervisor :=
  ⟨none, none, none, 0⟩

/-- The endpoints of the active room. -/
def endpoints (supervisor : Supervisor) : List Endpoint :=
  match supervisor.room with
  | none => []
  | some room => room.endpoints

/-- The endpoint of a name in the active room. -/
def endpoint? (supervisor : Supervisor) (name : String) : Option Endpoint :=
  supervisor.room.bind fun room => room.endpoint? name

/-- Whether any machine of the active room shows that a demo is running on it. -/
def demoActive (supervisor : Supervisor) : Bool :=
  supervisor.room.any (·.demoActive)

/-- The endpoints of the active room that show a flag. -/
def showing (supervisor : Supervisor) (flag : Flag) : List Endpoint :=
  match supervisor.room with
  | none => []
  | some room => room.showing flag

/-- Closes every endpoint and forgets the active room. -/
def clear (supervisor : Supervisor) : Turn :=
  match supervisor.room with
  | none => ⟨{ supervisor with demoServer := none }, [], []⟩
  | some room =>
    let (closed, trace) := room.close
    ⟨{ supervisor with room := none, demoServer := none }, trace, closed.endpoints⟩

/-- Chooses the school that rooms are looked up in; the active room is cleared. -/
def setSchool (supervisor : Supervisor) (school : Option String) : Turn :=
  let cleared := supervisor.clear
  { cleared with supervisor := { cleared.supervisor with school } }

end Supervisor

end ComputerRoom
