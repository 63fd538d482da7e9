import ComputerRoom.Endpoint.Effect
import ComputerRoom.Endpoint.Settings

/-! How an endpoint takes what its machine and its transport report. -/

namespace ComputerRoom.Endpoint

/--
The link came up. The first time a session is layered on the transport; the transport drops its link
right then, so the session can be used only once the link has come up again.
-/
def takeLinkUp (settings : Settings) (now : Nat) (endpoint : Endpoint) : Reaction :=
  match endpoint.channel with
  | .closed => ⟨endpoint, []⟩
  | .transport =>
    let joined := { endpoint with channel := .session, state := endpoint.state.set .connected }
    -- A time that the clock cannot tell breaks this off, so that nobody is asked.
    if settings.outlastsClock now then ⟨joined, [.sessionOpened]⟩
    else
      ⟨{ joined with lastResponse := now + settings.liveTimeout },
        [.sessionOpened, .sent .requestIdentity]⟩
  | .session =>
    if endpoint.isReady then ⟨endpoint, []⟩
    else
      ⟨{ endpoint with state := endpoint.state.set .ready },
        [.published (.connected endpoint.name)]⟩

/-- The link went into a state other than connected; its session is kept. -/
def takeLinkDown (state : Connection) (endpoint : Endpoint) : Endpoint :=
  let moved := { endpoint with state := endpoint.state.set state }
  -- Only a link that was up has user information to lose.
  if endpoint.state.current.isUp then moved.forgetUser else moved

/-- Takes a change of the link's state. -/
def takeLink (settings : Settings) (now : Nat) (state : LinkStatus) (endpoint : Endpoint) :
    Reaction :=
  match Connection.ofLink state with
  | .connected => endpoint.takeLinkUp settings now
  | next => ⟨endpoint.takeLinkDown next, []⟩

/-- A text that stands for somebody or something only if it is not empty. -/
def nonEmpty? (text : String) : Option String :=
  if text == "" then none else some text

/-- Takes the answer to who is logged in; `teaches` tells whether that user is a teacher. -/
def takeIdentity (now : Nat) (teaches : Bool) (username homeFolder : String) (endpoint : Endpoint) :
    Reaction :=
  let user := nonEmpty? username
  let informed := { endpoint with
    lastResponse := now
    username := endpoint.username.set user
    homeFolder := endpoint.homeFolder.set (nonEmpty? homeFolder)
    teacher := endpoint.teacher.set teaches }
  -- The flags are asked for every time, and the news is told only if the user is another one.
  let asked := if user.isSome then informed.send [.requestFlags] else ⟨informed, []⟩
  if endpoint.username.current == user then asked
  else ⟨asked.endpoint, asked.effects ++ [.published (.identity endpoint.name user)]⟩

/-- Takes a report of the machine's flags, and tells which of them flipped. -/
def takeFlags (mask : FlagMask) (endpoint : Endpoint) : List (Flag × Bool) × Reaction :=
  let (changes, flags) := endpoint.flags.report mask
  (changes, ⟨{ endpoint with flags },
    changes.map fun (flag, value) => .published (.flagChanged endpoint.name flag value)⟩)

end ComputerRoom.Endpoint
