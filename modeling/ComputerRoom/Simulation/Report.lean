import ComputerRoom.Simulation.EndpointStep

/-! What is told of each step: its answer, and the effects it had on those around. -/

namespace ComputerRoom

/-- The effects of a step, sorted by whom they concern. -/
structure Report where
  answer : Answer
  /-- The notices published, in order. -/
  notices : List Notice
  /-- The transports asked for, by host, port and interval. -/
  requests : List TransportRequest
  /-- The commands sent to each host that was sent any. -/
  commands : List (String × List Command)
  woken : List HardwareAddress

namespace Report

/-- The order in which transport requests are told. -/
def requestLe (left right : TransportRequest) : Bool :=
  if left.host != right.host then left.host < right.host
  else if left.port != right.port then left.port < right.port
  else left.frameInterval ≤ right.frameInterval

/-- The notices among some effects. -/
def noticesOf (trace : Trace) : List Notice :=
  trace.filterMap fun
    | (_, .published notice) => some notice
    | _ => none

/-- The transport requests among some effects. -/
def requestsOf (trace : Trace) : List TransportRequest :=
  trace.filterMap fun
    | (_, .opened _ request) => some request
    | _ => none

/-- The commands among some effects, each with the host it went to. -/
def commandsOf (trace : Trace) : List (String × Command) :=
  trace.filterMap fun
    | (host, .sent command) => some (host, command)
    | _ => none

/-- The commands of each host together, the hosts in the order of their first command. -/
def byHost (sent : List (String × Command)) : List (String × List Command) :=
  (sent.map (·.1)).eraseDups.map fun host =>
    (host, (sent.filter fun (other, _) => other == host).map (·.2))

/-- The report of a step that had these effects. -/
def new (answer : Answer) (trace : Trace) (woken : List HardwareAddress) : Report where
  answer := answer
  notices := noticesOf trace
  requests := (requestsOf trace).mergeSort requestLe
  commands := byHost (commandsOf trace)
  woken := woken

end Report

end ComputerRoom
