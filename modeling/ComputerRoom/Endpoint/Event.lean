import ComputerRoom.Endpoint.Reports
import ComputerRoom.User.Roster

/-! How an endpoint takes events with a roster at hand to tell who is a teacher. -/

namespace ComputerRoom

/-- An endpoint's reaction, and the roster that was consulted for it. -/
structure Consulted where
  reaction : Reaction
  roster : Roster
  deriving Repr, DecidableEq

namespace Endpoint

/-- Takes the answer to who is logged in, looking that user up. -/
def identify (now : Nat) (roster : Roster) (username homeFolder : String) (endpoint : Endpoint) :
    Consulted :=
  let (teaches, after) := roster.isTeacher (nonEmpty? username)
  ⟨endpoint.takeIdentity now teaches username homeFolder, after⟩

/-- Takes an event of a session; events of any session but the current one are dropped. -/
def handle (settings : Settings) (now : Nat) (roster : Roster) (session : SessionId)
    (event : Signal) (endpoint : Endpoint) : Consulted :=
  if session != endpoint.session then ⟨⟨endpoint, []⟩, roster⟩
  else
    match event with
    | .state state => ⟨endpoint.takeLink settings now state, roster⟩
    | .identity username homeFolder => endpoint.identify now roster username homeFolder
    | .flags mask => ⟨(endpoint.takeFlags mask).2, roster⟩

/-- Whether the user who is logged in is a teacher, looked up now. -/
def hasTeacher (roster : Roster) (endpoint : Endpoint) : Bool × Roster :=
  roster.isTeacher endpoint.username.current

/-- Whether the screen of the user who is logged in is hidden, looked up now. -/
def hidesScreen (roster : Roster) (endpoint : Endpoint) : Bool × Roster :=
  roster.hidesScreen endpoint.username.current

end Endpoint

end ComputerRoom
