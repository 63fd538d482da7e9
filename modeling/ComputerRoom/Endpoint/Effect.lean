import ComputerRoom.Endpoint.Basic

/-! What an endpoint does to the world around it. -/

namespace ComputerRoom

/-- A command of the supervision protocol. -/
inductive Command where
  | requestIdentity
  | requestFlags
  | lockScreen
  | unlockScreen
  | lockInput
  | unlockInput
  | displayMessage (title text : String)
  | powerDown
  | restart
  | logOut
  | startDemoServer (vncPort demoPort : Nat)
  | stopDemoServer
  | allowHost (ip : String)
  | denyHost (ip : String)
  | startDemo (host : String) (port : Nat) (fullscreen : Bool)
  | stopDemo
  deriving Repr, DecidableEq

/-- What those who follow an endpoint are told. -/
inductive Notice where
  /-- The endpoint became ready. -/
  | connected (name : String)
  /-- Another user logged in, or the user logged out. -/
  | identity (name : String) (username : Option String)
  /-- A flag flipped. -/
  | flagChanged (name : String) (flag : Flag) (value : Bool)
  deriving Repr, DecidableEq

/-- A request to open a transport. -/
structure TransportRequest where
  host : String
  port : Nat
  frameInterval : Nat
  deriving Repr, DecidableEq

/-- One thing that an endpoint does to its surroundings. -/
inductive Effect where
  | opened (session : SessionId) (request : TransportRequest)
  /-- A transport without a session was stopped. -/
  | transportStopped
  /-- A session was layered on the transport. -/
  | sessionOpened
  | sessionClosed
  | sent (command : Command)
  | published (notice : Notice)
  deriving Repr, DecidableEq

/-- An endpoint after an operation, and what the operation did, in order. -/
structure Reaction where
  endpoint : Endpoint
  effects : List Effect
  deriving Repr, DecidableEq

/-- Follows a reaction by another operation on its endpoint. -/
def Reaction.andThen (reaction : Reaction) (next : Endpoint → Reaction) : Reaction :=
  let second := next reaction.endpoint
  ⟨second.endpoint, reaction.effects ++ second.effects⟩

/-- Sends commands if there is a session to send them through. -/
def Endpoint.send (endpoint : Endpoint) (commands : List Command) : Reaction :=
  match endpoint.channel with
  | .session => ⟨endpoint, commands.map .sent⟩
  | _ => ⟨endpoint, []⟩

end ComputerRoom
