import ComputerRoom.Config.Basic
import ComputerRoom.HardwareAddress
import ComputerRoom.Network.Ipv4

/-! Waking a machine: where the packets are sent from and to. -/

namespace ComputerRoom

/-- Why a machine could not be woken. -/
inductive WakeFailure where
  | invalidMac (error : HardwareAddress.Error)
  | sending (text : String)
  | noInterface
  deriving Repr, DecidableEq

/-- The wording of a failure. -/
def WakeFailure.message : WakeFailure → String
  | invalidMac error => "invalid MAC address: " ++ error.message
  | sending text => "wake-on-lan I/O error: " ++ text
  | noInterface => "no local IPv4 interface available for wake-on-lan"

/-- A network interface and its address, absent where that is not an IPv4 address. -/
structure Interface where
  name : String
  address : Option Ipv4
  deriving Repr, DecidableEq

/-- A packet on its way from a local address to a port of a target. -/
structure Datagram where
  source : Ipv4
  target : Ipv4
  port : Nat
  payload : List UInt8
  deriving Repr, DecidableEq

/-- The port that wake packets are sent to. -/
def wakePort : Nat := 9

namespace Config.Waking

/-- The addresses to send to: those given that are IPv4 addresses, or the whole network. -/
def targets (wake : Waking) : List Ipv4 :=
  match wake.broadcastTargets.filterMap fun target => Ipv4.parse? (Text.trim target) with
  | [] => [Ipv4.broadcast]
  | valid => valid

/-- Whether an interface is left out, by its name or by how the name starts. -/
def skips (wake : Waking) (name : String) : Bool :=
  wake.skippedInterfaces.contains name ||
    wake.skippedStarts.any fun start => start.toList.isPrefixOf name.toList

/-- Appends an address unless it is there already. -/
def addSource (sources : List Ipv4) (source : Ipv4) : List Ipv4 :=
  if sources.contains source then sources else sources ++ [source]

/-- The IPv4 addresses of the interfaces that are not left out, each once, in order. -/
def sources (wake : Waking) (interfaces : List Interface) : List Ipv4 :=
  let kept := interfaces.filter fun interface => !wake.skips interface.name
  (kept.filterMap (·.address)).foldl addSource []

/-- The packets that wake a machine: from every source to every target. -/
def datagrams (wake : Waking) (interfaces : List Interface) (address : HardwareAddress) :
    Except WakeFailure (List Datagram) :=
  match wake.sources interfaces with
  | [] => .error .noInterface
  | sources => .ok (sources.flatMap fun source => wake.targets.map fun target =>
      ⟨source, target, wakePort, address.wakePacket⟩)

end Config.Waking

end ComputerRoom
