import ComputerRoom.Endpoint.Effect
import ComputerRoom.Endpoint.Settings

/-! Opening and closing the connection to a machine, and opening it anew when it falls silent. -/

namespace ComputerRoom.Endpoint

/-- Opens a transport under a new session id, unless the link is open already. -/
def connect (settings : Settings) (endpoint : Endpoint) : Reaction :=
  match endpoint.channel with
  | .closed =>
    let opened := { endpoint with channel := .transport, connects := endpoint.connects + 1 }
    ⟨opened, [.opened opened.session ⟨endpoint.ip, settings.vncPort, settings.frameInterval⟩]⟩
  | _ => ⟨endpoint, []⟩

/-- Lets go of the link; closing a session also stops the transport beneath it. -/
def release (endpoint : Endpoint) : Reaction :=
  match endpoint.channel with
  | .closed => ⟨endpoint, []⟩
  | .transport => ⟨{ endpoint with channel := .closed }, [.transportStopped]⟩
  | .session => ⟨{ endpoint with channel := .closed }, [.sessionClosed]⟩

/-- Lets go of the link and forgets what came over it. -/
def disconnect (endpoint : Endpoint) : Reaction :=
  endpoint.release.andThen fun released =>
    ⟨{ released.forgetUser with state := released.state.set .disconnected }, []⟩

/-- Starts supervision, which can be done once. -/
def start (now : Nat) (endpoint : Endpoint) : Endpoint :=
  match endpoint.supervision with
  | .idle => { endpoint with supervision := .running now }
  | _ => endpoint

/-- Ends supervision if it is running. -/
def stop (endpoint : Endpoint) : Endpoint :=
  match endpoint.supervision with
  | .running _ => { endpoint with supervision := .ended }
  | _ => endpoint

/-- Connects and starts supervision. -/
def launch (settings : Settings) (now : Nat) (endpoint : Endpoint) : Reaction :=
  (endpoint.connect settings).andThen fun connected => ⟨connected.start now, []⟩

/-- Ends supervision and disconnects. -/
def close (endpoint : Endpoint) : Reaction :=
  endpoint.stop.disconnect

/-- Lets go of an endpoint that nobody will look at again. -/
def drop (endpoint : Endpoint) : Reaction :=
  endpoint.stop.release

/-- How long the machine has been silent. -/
def silence (now : Nat) (endpoint : Endpoint) : Nat :=
  now - endpoint.lastResponse

/--
One check of a ready connection: asks who is logged in, or opens the connection anew if the machine
has been silent for too long.
-/
def update (settings : Settings) (now : Nat) (endpoint : Endpoint) : Reaction :=
  if !endpoint.isReady then ⟨endpoint, []⟩
  else if settings.liveTimeout < endpoint.silence now then
    -- The new connection gets a full timeout before it can be found silent. A whole timeout has
    -- passed by now, so the clock is taken to last for one more.
    endpoint.disconnect.andThen fun closed =>
      { closed with lastResponse := now + settings.liveTimeout }.connect settings
  else endpoint.send [.requestIdentity]

end ComputerRoom.Endpoint
