import ComputerRoom.Text.Blank
import ComputerRoom.Text.LowerCase

/-! The records of a directory: rooms, machines and user accounts. -/

namespace ComputerRoom

/-- A room and the machines that stand in it. -/
structure RoomListing where
  id : String
  name : String
  memberIds : List String
  deriving Repr, DecidableEq

/-- The kinds of machine that supervision tells apart. -/
inductive Platform where
  | windows
  | linux
  | macOs
  | thinClient
  | other
  deriving Repr, DecidableEq

namespace Platform

/-- Every platform. -/
def all : List Platform :=
  [windows, linux, macOs, thinClient, other]

/-- The name of a platform as records carry it. -/
def name : Platform → String
  | windows => "windows"
  | linux => "linux"
  | macOs => "mac_os"
  | thinClient => "thin_client"
  | other => "other"

/-- The platform that a name stands for. -/
def ofName? (name : String) : Option Platform :=
  all.find? fun platform => platform.name == name

/-- Whether a machine of this kind can show a demo; a thin client has no display of its own. -/
def showsDemos (platform : Platform) : Bool :=
  platform != thinClient

end Platform

/-- A machine with every address that is known for it. -/
structure Machine where
  id : String
  name : String
  ips : List String
  macs : List String
  description : Option String
  platform : Platform
  deriving Repr, DecidableEq

/-- The first address listed for a machine. -/
def Machine.firstIp (machine : Machine) : Option String :=
  machine.ips.head?

/-- The first hardware address listed for a machine. -/
def Machine.firstMac (machine : Machine) : Option String :=
  machine.macs.head?

/-- A user account and the groups it belongs to. -/
structure Account where
  id : String
  username : String
  isTeacher : Bool
  groupIds : List String
  deriving Repr, DecidableEq

/-- The name in the id of a group: all of it, or of a distinguished name its first part's value. -/
def relativeName (id : List Char) : List Char :=
  let first := id.takeWhile (· != ',')
  -- What stands before an equals sign is only the attribute's label.
  match first.dropWhile (· != '=') with
  | [] => first
  | _ :: value => value

/-- The name of a group, trimmed and in lower case. -/
def groupName (id : String) : String :=
  String.ofList (Text.lowered (Text.trimmed (relativeName id.toList)))

/-- The names of the groups that an account belongs to. -/
def Account.groups (account : Account) : List String :=
  account.groupIds.map groupName

end ComputerRoom
