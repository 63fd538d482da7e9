import ComputerRoom.Room.Basic

/-! Simulated agents: what each host saw of its connections, and the state it would report. -/

namespace ComputerRoom

/-- The agent on one host. -/
structure Agent where
  /-- The commands received, latest first. -/
  received : List Command
  /-- The flags that the agent would report now. -/
  mask : FlagMask
  /-- The picture of its screen, if there is one yet. -/
  image : Option (List UInt8)
  connects : Nat
  sessionsOpened : Nat
  sessionsClosed : Nat
  transportsStopped : Nat
  /-- The latest connect call to this host, whose session its events belong to. -/
  line : Option SessionId
  deriving Repr, DecidableEq

namespace Agent

/-- An agent that nothing has happened to. -/
def new : Agent :=
  ⟨[], .empty, none, 0, 0, 0, 0, none⟩

/-- The commands received, in order. -/
def commands (agent : Agent) : List Command :=
  agent.received.reverse

/-- The flags that an agent shows once a command is carried out. -/
def maskAfter (mask : FlagMask) : Command → FlagMask
  | .lockScreen => mask.put .screenLock true
  | .unlockScreen => mask.put .screenLock false
  | .lockInput => mask.put .inputLock true
  | .unlockInput => mask.put .inputLock false
  | .displayMessage _ _ => mask.put .messageBox true
  | .startDemoServer _ _ => mask.put .demoServer true
  | .stopDemoServer => mask.put .demoServer false
  | .startDemo _ _ _ => mask.put .demoClient true
  | .stopDemo => mask.put .demoClient false
  | _ => mask

/-- The agent once an endpoint has done something to its host. -/
def observe (agent : Agent) : Effect → Agent
  | .opened session _ => { agent with connects := agent.connects + 1, line := some session }
  | .transportStopped => { agent with transportsStopped := agent.transportsStopped + 1 }
  | .sessionOpened => { agent with sessionsOpened := agent.sessionsOpened + 1 }
  | .sessionClosed => { agent with sessionsClosed := agent.sessionsClosed + 1 }
  | .sent command =>
    { agent with
      received := command :: agent.received
      mask := maskAfter agent.mask command }
  | .published _ => agent

end Agent

/-- The agents that were looked at so far, by host. -/
abbrev Agents := List (String × Agent)

namespace Agents

/-- The agent on a host; nothing has happened yet to one that was not looked at. -/
def onHost (agents : Agents) (host : String) : Agent :=
  (agents.lookup host).getD .new

/-- Changes the agent on a host. -/
def modify (agents : Agents) (host : String) (change : Agent → Agent) : Agents :=
  match agents with
  | [] => [(host, change .new)]
  | (other, agent) :: rest =>
    if other == host then (other, change agent) :: rest
    else (other, agent) :: modify rest host change

/-- The agents once every effect of a trace has reached its host. -/
def observe (agents : Agents) (trace : Trace) : Agents :=
  trace.foldl (fun agents (host, effect) => agents.modify host (·.observe effect)) agents

end Agents

end ComputerRoom
