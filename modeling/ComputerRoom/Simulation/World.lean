import ComputerRoom.Simulation.Agent

/-!
The surroundings of supervised endpoints: a clock that moves only when told to, a roster, simulated
agents, and a way to wake machines that can be made to fail.
-/

namespace ComputerRoom

/-- The surroundings at one moment. -/
structure World where
  /-- Milliseconds since the beginning. -/
  now : Nat
  settings : Settings
  roster : Roster
  agents : Agents
  /-- What keeps machines from being woken at present, if anything. -/
  wakeObstacle : Option WakeFailure
  deriving Repr, DecidableEq

/-- Endpoints and their surroundings after something happened, and the effects it had. -/
structure Scene where
  world : World
  endpoints : List Endpoint
  trace : Trace
  deriving Repr, DecidableEq

/-- Endpoints and their surroundings while time passes, and the effects so far, latest first. -/
structure Passage where
  world : World
  endpoints : List Endpoint
  past : List Trace

/-- The longest time between two checks, in milliseconds: thirty years of 365 days. -/
def longestInterval : Nat := 30 * 365 * 24 * 3600 * 1000

namespace Endpoint

/-- Whether supervision checks the endpoint at a moment: at its start and at each interval after. -/
def isDue (interval moment : Nat) (endpoint : Endpoint) : Bool :=
  match endpoint.supervision with
  | .running since => since ≤ moment && (moment - since) % interval == 0
  | _ => false

/-- The moments after one time, and not after another, at which supervision checks the endpoint. -/
def checks (interval after last : Nat) (endpoint : Endpoint) : List Nat :=
  match endpoint.supervision with
  | .running since =>
    -- The checks are counted from the start; `first` is the number of the next one.
    let first := (after - since) / interval + 1
    let count := (last - since) / interval + 1 - first
    (List.range' first count).map fun turn => since + turn * interval
  | _ => []

/-- Whether supervision is running. -/
def isSupervised (endpoint : Endpoint) : Bool :=
  match endpoint.supervision with
  | .running _ => true
  | _ => false

/-- Whether taking an event is broken off because a timeout would end after the clock does. -/
def breaksOff (settings : Settings) (now : Nat) (session : SessionId) (event : Signal)
    (endpoint : Endpoint) : Bool :=
  session == endpoint.session && event == .state .connected && endpoint.channel == .transport &&
    settings.outlastsClock now

end Endpoint

namespace World

/-- A world at the beginning of time. -/
def new (settings : Settings) (roster : Roster) : World :=
  ⟨0, settings, roster, [], none⟩

/-- The time between two checks of an endpoint, in milliseconds. -/
def checkInterval (world : World) : Nat :=
  min world.settings.pollInterval longestInterval

/-- Lets effects reach the agents. -/
def observe (world : World) (trace : Trace) : World :=
  { world with agents := world.agents.observe trace }

/-- Wakes a machine, unless something keeps it from being woken. -/
def wake (world : World) (_address : HardwareAddress) : Except WakeFailure Unit :=
  match world.wakeObstacle with
  | some failure => .error failure
  | none => .ok ()

/-- Checks every endpoint that is due at the present moment. -/
def check (world : World) : List Endpoint → Scene
  | [] => ⟨world, [], []⟩
  | endpoint :: rest =>
    let reaction :=
      if endpoint.isDue world.checkInterval world.now then
        endpoint.update world.settings world.now
      else ⟨endpoint, []⟩
    -- The agents hear of one check before the next one is made.
    let scene := (world.observe reaction.trace).check rest
    { scene with
      endpoints := reaction.endpoint :: scene.endpoints
      trace := reaction.trace ++ scene.trace }

/-- Lets the clock go on to a later moment, and makes the checks that are due then. -/
def advance (passage : Passage) (moment : Nat) : Passage :=
  let next := { passage.world with now := moment }.check passage.endpoints
  ⟨next.world, next.endpoints, next.trace :: passage.past⟩

/-- An ascending list without its repetitions. -/
def distinct (moments : List Nat) : List Nat :=
  moments.foldr (fun moment later =>
    if later.head? == some moment then later else moment :: later) []

/-- Lets time pass, checking endpoints at the moments that are due on the way. -/
def sleep (world : World) (duration : Nat) (endpoints : List Endpoint) : Scene :=
  let last := world.now + duration
  -- Endpoints that are due at the same moment are checked together, in the order of the room.
  let due := endpoints.flatMap (·.checks world.checkInterval world.now last)
  let passage := (distinct due.mergeSort).foldl advance ⟨world, endpoints, []⟩
  ⟨{ passage.world with now := last }, passage.endpoints, passage.past.reverse.flatten⟩

/-- Has an endpoint's supervision take an event; supervision ends if that is broken off. -/
def supervise (world : World) (session : SessionId) (event : Signal) (endpoint : Endpoint) :
    Consulted :=
  let taken := endpoint.handle world.settings world.now world.roster session event
  if endpoint.breaksOff world.settings world.now session event then
    { taken with reaction := taken.reaction.andThen fun left => ⟨left.stop, []⟩ }
  else taken

/-- Brings an event of a session to the endpoint it belongs to, if that is still supervised. -/
def deliver (world : World) (session : SessionId) (event : Signal) : List Endpoint → Scene
  | [] => ⟨world, [], []⟩
  | endpoint :: rest =>
    -- No other endpoint has the serial, so the search ends here.
    if endpoint.serial == session.endpoint && endpoint.isSupervised then
      let taken := world.supervise session event endpoint
      let trace := taken.reaction.trace
      ⟨{ world with roster := taken.roster }.observe trace, taken.reaction.endpoint :: rest, trace⟩
    else
      let scene := world.deliver session event rest
      { scene with endpoints := endpoint :: scene.endpoints }

/-- Has the agent on a host report an event; tells whether anyone ever connected to it. -/
def emit (world : World) (host : String) (event : Signal) (endpoints : List Endpoint) :
    Bool × Scene :=
  match (world.agents.onHost host).line with
  | none => (false, ⟨world, endpoints, []⟩)
  | some session => (true, world.deliver session event endpoints)

end World

end ComputerRoom
