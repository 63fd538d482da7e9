import ComputerRoom.Simulation.Answer
import ComputerRoom.Simulation.World

/-! The steps that can be taken on one endpoint. -/

namespace ComputerRoom

/-- Which session an event is said to belong to. -/
inductive SessionChoice where
  | current
  /-- The session before the first connect call. -/
  | initial
  /-- The session of a connect call, counted from zero. -/
  | ofConnect (index : Nat)
  deriving Repr, DecidableEq

/-- The session that is meant, as seen from an endpoint. -/
def SessionChoice.resolve (endpoint : Endpoint) : SessionChoice → SessionId
  | current => endpoint.session
  | initial => ⟨endpoint.serial, 0⟩
  | ofConnect index => ⟨endpoint.serial, index + 1⟩

/-- A step on an endpoint, where `Server` is how the server of a demo is named. -/
inductive EndpointStep (Server : Type) where
  | connect
  | start
  | launch
  | close
  | event (event : Signal) (session : SessionChoice)
  | link (state : LinkStatus)
  | identity (username homeFolder : String)
  | update
  | flags (mask : FlagMask)
  /-- Takes the flags that the endpoint's own agent would report. -/
  | relayFlags
  | poll
  | isReady
  | hasTeacher
  | hidesScreen
  | flag (flag : Flag)
  | snapshot
  | describe
  | perform (order : Order)
  | startDemoClient (server : Server) (fullscreen : Bool)
  | wakeUp
  | capture

/-- An endpoint and its roster after a step, what the step answered, and whom it woke. -/
structure EndpointTurn where
  answer : Answer
  reaction : Reaction
  roster : Roster
  woken : List HardwareAddress

namespace EndpointTurn

/-- A turn that only answers. -/
def quiet (world : World) (endpoint : Endpoint) (answer : Answer) : EndpointTurn :=
  ⟨answer, ⟨endpoint, []⟩, world.roster, []⟩

/-- A turn that leaves the roster alone and wakes nobody. -/
def ofReaction (world : World) (reaction : Reaction) (answer : Answer) : EndpointTurn :=
  ⟨answer, reaction, world.roster, []⟩

/-- A turn that consulted the roster. -/
def ofConsulted (consulted : Consulted) : EndpointTurn :=
  ⟨.nothing, consulted.reaction, consulted.roster, []⟩

end EndpointTurn

namespace Endpoint

/-- Starts supervision; the first check is made at once. -/
def startChecked (settings : Settings) (now : Nat) (endpoint : Endpoint) : Reaction :=
  if endpoint.supervision == .idle then (endpoint.start now).update settings now
  else ⟨endpoint, []⟩

/-- Carries an order out and tells whether it was sent. -/
def performStep (world : World) (endpoint : Endpoint) (order : Order) : EndpointTurn :=
  let (delivery, reaction) := endpoint.perform world.settings order
  .ofReaction world reaction (.delivery delivery)

/-- Takes a report of flags and tells which of them flipped. -/
def flagsStep (world : World) (endpoint : Endpoint) (mask : FlagMask) : EndpointTurn :=
  let (changes, reaction) := endpoint.takeFlags mask
  .ofReaction world reaction (.changes changes)

/-- Wakes the machine and tells whether there was anything to wake. -/
def wakeUpStep (world : World) (endpoint : Endpoint) : EndpointTurn :=
  match endpoint.wakeUp world.wake with
  | .error failure => .quiet world endpoint (.failedEndpoint failure)
  | .ok none => .quiet world endpoint (.delivery .skipped)
  | .ok (some address) =>
    { EndpointTurn.quiet world endpoint (.delivery .sent) with woken := [address] }

/-- Takes one step; `locate` gives the address of a demo's server, or else what to answer. -/
def take {Server : Type} (world : World) (locate : Server → Except Answer String)
    (endpoint : Endpoint) : EndpointStep Server → EndpointTurn
  | .connect => .ofReaction world (endpoint.connect world.settings) .nothing
  | .start => .ofReaction world (endpoint.startChecked world.settings world.now) .nothing
  | .launch =>
    let reaction := (endpoint.connect world.settings).andThen fun connected =>
      connected.startChecked world.settings world.now
    .ofReaction world reaction .nothing
  | .close => .ofReaction world endpoint.close .nothing
  | .event event session =>
    .ofConsulted
      (endpoint.handle world.settings world.now world.roster (session.resolve endpoint) event)
  | .link state =>
    .ofReaction world (endpoint.takeLink world.settings world.now state) .nothing
  | .identity username homeFolder =>
    .ofConsulted (endpoint.identify world.now world.roster username homeFolder)
  | .update => .ofReaction world (endpoint.update world.settings world.now) .nothing
  | .flags mask => endpoint.flagsStep world mask
  | .relayFlags => endpoint.flagsStep world (world.agents.onHost endpoint.ip).mask
  | .poll =>
    let (changed, settled) := endpoint.poll
    .quiet world settled (.boolean changed)
  | .isReady => .quiet world endpoint (.boolean endpoint.isReady)
  | .hasTeacher =>
    let (taught, roster) := endpoint.hasTeacher world.roster
    { EndpointTurn.quiet world endpoint (.boolean taught) with roster }
  | .hidesScreen =>
    let (hidden, roster) := endpoint.hidesScreen world.roster
    { EndpointTurn.quiet world endpoint (.boolean hidden) with roster }
  | .flag flag => .quiet world endpoint (.maybe (endpoint.flag flag))
  | .snapshot => .quiet world endpoint (.snapshot endpoint.snapshot)
  | .describe => .quiet world endpoint (.description endpoint.machine endpoint.address)
  | .perform order => endpoint.performStep world order
  | .startDemoClient server fullscreen =>
    match locate server with
    | .error answer => .quiet world endpoint answer
    | .ok ip => endpoint.performStep world (.startDemoClient ip fullscreen)
  | .wakeUp => endpoint.wakeUpStep world
  | .capture =>
    .quiet world endpoint (.image (endpoint.screenshot (world.agents.onHost endpoint.ip).image))

end Endpoint

end ComputerRoom
