import ComputerRoom.Directory.Record
import ComputerRoom.Directory.Failure

/-! A directory of rooms, machines and accounts, with queries that can be made to fail. -/

namespace ComputerRoom

/-- A room as it stands in the directory: its record and the school it belongs to, if any. -/
structure SchoolRoom where
  school : Option String
  record : RoomListing
  deriving Repr, DecidableEq

/-- The failure that each kind of query meets at present, if any. -/
structure Outages where
  room : Option DirectoryFailure
  machine : Option DirectoryFailure
  user : Option DirectoryFailure
  deriving Repr, DecidableEq

/-- A directory: its records in the order they were added, and the state of its queries. -/
structure Directory where
  rooms : List SchoolRoom
  machines : List Machine
  accounts : List Account
  outages : Outages
  /-- How many user queries it has answered, an outage's answer not being its own. -/
  answered : Nat
  deriving Repr, DecidableEq

namespace Directory

/-- The directory without any record. -/
def empty : Directory :=
  ⟨[], [], [], ⟨none, none, none⟩, 0⟩

/-- Adds a room after the others. -/
def addRoom (directory : Directory) (school : Option String) (record : RoomListing) : Directory :=
  { directory with rooms := directory.rooms ++ [⟨school, record⟩] }

/-- Adds a machine, in place of one with the same id. -/
def addMachine (directory : Directory) (machine : Machine) : Directory :=
  { directory with
    machines := directory.machines.filter (fun other => other.id != machine.id) ++ [machine] }

/-- Adds an account after the others. -/
def addAccount (directory : Directory) (account : Account) : Directory :=
  { directory with accounts := directory.accounts ++ [account] }

/-- The only match of a query; none or several are failures. -/
def unique {α : Type} (query : String) : List α → Except DirectoryFailure α
  | [] => .error (.notFound query)
  | [only] => .ok only
  | many => .error (.ambiguous query many.length)

/-- The rooms of a name, within one school if one is given. -/
def roomsNamed (directory : Directory) (name : String) (school : Option String) :
    List RoomListing :=
  (directory.rooms.filter fun room =>
    room.record.name == name && (school.isNone || room.school == school)).map (·.record)

/-- The room of an id, whatever its school, or else the only room of that name. -/
def findRoom (directory : Directory) (query : String) (school : Option String) :
    Except DirectoryFailure RoomListing :=
  -- An id is looked for first: a room with it hides all those that have it for a name.
  match directory.rooms.find? fun room => room.record.id == query with
  | some room => .ok room.record
  | none => unique query (directory.roomsNamed query school)

/-- The machine of an id. -/
def findMachine (directory : Directory) (id : String) : Except DirectoryFailure Machine :=
  match directory.machines.find? fun machine => machine.id == id with
  | some machine => .ok machine
  | none => .error (.notFound id)

/-- The only account of a login name. -/
def findAccount (directory : Directory) (username : String) : Except DirectoryFailure Account :=
  unique username (directory.accounts.filter fun account => account.username == username)

/-- Asks for a room. -/
def room (directory : Directory) (query : String) (school : Option String) :
    Except DirectoryFailure RoomListing :=
  match directory.outages.room with
  | some failure => .error failure
  | none => directory.findRoom query school

/-- Asks for a machine. -/
def machine (directory : Directory) (id : String) : Except DirectoryFailure Machine :=
  match directory.outages.machine with
  | some failure => .error failure
  | none => directory.findMachine id

/-- Asks for the account of a login name. -/
def account (directory : Directory) (username : String) : Except DirectoryFailure Account :=
  match directory.outages.user with
  | some failure => .error failure
  | none => directory.findAccount username

/-- Notes `count` user queries, which an outage keeps from reaching the directory. -/
def noteQueries (directory : Directory) (count : Nat) : Directory :=
  if directory.outages.user.isSome then directory
  else { directory with answered := directory.answered + count }

/-- Asks for the account of a login name, and notes the query. -/
def askAccount (directory : Directory) (username : String) :
    Except DirectoryFailure Account × Directory :=
  (directory.account username, directory.noteQueries 1)

end Directory

end ComputerRoom
