import ComputerRoom.Endpoint.Effect
import ComputerRoom.Endpoint.Settings

/-! What an operator can order a machine to do, and the commands that carry it out. -/

namespace ComputerRoom

/-- An order to a machine. -/
inductive Order where
  | lockScreen
  | unlockScreen
  | lockInput
  | unlockInput
  | sendMessage (title text : String)
  | powerOff
  | restart
  | logOut
  /-- Starts the demo server anew for exactly these viewers. -/
  | startDemoServer (viewers : List String)
  | stopDemoServer
  | allowViewers (viewers : List String)
  | denyViewers (viewers : List String)
  | denyAllViewers
  /-- Shows the demo of the server at an address. -/
  | startDemoClient (server : String) (fullscreen : Bool)
  | stopDemoClient
  deriving Repr, DecidableEq

/-- Whether an order was handed to the session, or passed over because the machine is not ready. -/
inductive Delivery where
  | sent
  | skipped
  deriving Repr, DecidableEq

/-- The commands that carry an order out, and the viewers let in after it. -/
structure Script where
  commands : List Command
  viewers : List String
  deriving Repr, DecidableEq

namespace Script

/-- Commands that leave the viewers as they are. -/
def plain (viewers : List String) (commands : List Command) : Script :=
  ⟨commands, viewers⟩

/-- Puts a command in front. -/
def after (command : Command) (script : Script) : Script :=
  { script with commands := command :: script.commands }

/-- Lets viewers in, except those who are in already. -/
def allow (viewers : List String) : List String → Script
  | [] => ⟨[], viewers⟩
  | ip :: rest =>
    if viewers.contains ip then allow viewers rest
    else (allow (viewers ++ [ip]) rest).after (.allowHost ip)

/-- Shuts viewers out, as far as they are in. -/
def deny (viewers : List String) : List String → Script
  | [] => ⟨[], viewers⟩
  | ip :: rest =>
    if viewers.contains ip then (deny (viewers.erase ip) rest).after (.denyHost ip)
    else deny viewers rest

/-- The commands that shut every viewer out. -/
def denyAll (viewers : List String) : List Command :=
  viewers.map .denyHost

end Script

/-- How an order is carried out when `viewers` are let in. -/
def Order.script (settings : Settings) (viewers : List String) : Order → Script
  | lockScreen => .plain viewers [.lockScreen]
  | unlockScreen => .plain viewers [.unlockScreen]
  | lockInput => .plain viewers [.lockInput]
  | unlockInput => .plain viewers [.unlockInput]
  | sendMessage title text => .plain viewers [.displayMessage title text]
  | powerOff => .plain viewers [.powerDown]
  | restart => .plain viewers [.restart]
  | logOut => .plain viewers [.logOut]
  | startDemoServer newViewers =>
    -- The viewers of the old server are shut out before anyone is let in to the new one.
    let allowed := Script.allow [] newViewers
    ⟨[.stopDemoServer, .startDemoServer settings.vncPort settings.demoPort] ++
      Script.denyAll viewers ++ allowed.commands, allowed.viewers⟩
  | stopDemoServer => ⟨Script.denyAll viewers ++ [.stopDemoServer], []⟩
  | allowViewers newViewers => .allow viewers newViewers
  | denyViewers oldViewers => .deny viewers oldViewers
  | denyAllViewers => ⟨Script.denyAll viewers, []⟩
  | startDemoClient server fullscreen =>
    -- Nothing that covers the screen may be left when the demo begins.
    .plain viewers
      [.stopDemo, .unlockScreen, .unlockInput, .startDemo server settings.demoPort fullscreen]
  | stopDemoClient => .plain viewers [.stopDemo]

namespace Endpoint

/-- Carries an order out if the endpoint is ready, and changes nothing otherwise. -/
def perform (settings : Settings) (order : Order) (endpoint : Endpoint) : Delivery × Reaction :=
  if endpoint.isReady && endpoint.channel == .session then
    let script := order.script settings endpoint.viewers
    (.sent, { endpoint with viewers := script.viewers }.send script.commands)
  else (.skipped, ⟨endpoint, []⟩)

/--
Wakes the machine through `wake`, whatever state the connection is in. Tells the hardware address
that was woken; a machine without one is passed over.
-/
def wakeUp (wake : HardwareAddress → Except WakeFailure Unit) (endpoint : Endpoint) :
    Except EndpointFailure (Option HardwareAddress) :=
  match endpoint.address.mac with
  | none => .ok none
  | some text =>
    match HardwareAddress.parse text with
    | .error error => .error (.wake (.invalidMac error))
    | .ok address =>
      match wake address with
      | .error failure => .error (.wake failure)
      | .ok () => .ok (some address)

/-- The machine's screen, as its session last saw it, if the endpoint is ready. -/
def screenshot {α : Type} (image : Option α) (endpoint : Endpoint) : Option α :=
  if endpoint.isReady && endpoint.channel == .session then image else none

end Endpoint

end ComputerRoom
