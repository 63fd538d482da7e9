import ComputerRoom.Directory.Record

/-! Which of a machine's addresses is used. -/

namespace ComputerRoom

/-- The address that a machine is reached by, and the hardware address it is woken by. -/
structure Address where
  ip : String
  mac : Option String
  deriving Repr, DecidableEq

/-- What can be found out about addresses: which ones answer, and the card behind each. -/
structure Prober where
  answers : String → Bool
  macOf : String → Option String

/-- What a search among addresses came to: those that were asked, and the one that answered. -/
structure Search where
  asked : List String
  found : Option String
  deriving Repr, DecidableEq

/-- Asks addresses in order for an answer: nobody is asked once one has answered. -/
def Prober.search (prober : Prober) : List String → Search
  | [] => ⟨[], none⟩
  | ip :: rest =>
    if prober.answers ip then ⟨[ip], some ip⟩
    else
      let later := prober.search rest
      { later with asked := ip :: later.asked }

namespace Machine

/-- The addresses of a machine that are not blank, trimmed. -/
def usableIps (machine : Machine) : List String :=
  (machine.ips.map Text.trim).filter (· != "")

/-- The addresses that are asked for an answer, in order. -/
def askedIps (machine : Machine) (prober : Prober) : List String :=
  (prober.search machine.usableIps).asked

/-- The hardware address listed for the card found behind the active address, or else the first. -/
def macBehind (machine : Machine) (found : Option String) : Option String :=
  match found with
  | none => machine.firstMac
  | some mac =>
    match machine.macs.find? fun listed => Text.equalIgnoringAsciiCase listed mac with
    | some listed => some listed
    | none => machine.firstMac

/-- The address to use: the first that answers, or the first of all if none does or is asked. -/
def activeAddress? (machine : Machine) (prober : Option Prober) : Option Address :=
  match machine.usableIps, prober with
  | [], _ => none
  | first :: _, none => some ⟨first, machine.firstMac⟩
  | first :: rest, some prober =>
    let ip := (prober.search (first :: rest)).found.getD first
    some ⟨ip, machine.macBehind (prober.macOf ip)⟩

end Machine

end ComputerRoom
