import ComputerRoom.Directory.Store

/-! Changes to a directory while it is in use. -/

namespace ComputerRoom

/-- The kinds of query that a directory answers. -/
inductive QueryKind where
  | room
  | machine
  | user
  deriving Repr, DecidableEq

/-- A change to the content of a directory or to how its queries fare. -/
inductive DirectoryChange where
  | addRoom (school : Option String) (record : RoomListing)
  | addMachine (machine : Machine)
  | addAccount (account : Account)
  /-- From now on queries of a kind meet a failure, or no longer do. -/
  | outage (kind : QueryKind) (failure : Option DirectoryFailure)
  deriving Repr, DecidableEq

/-- The directory after a change. -/
def Directory.apply (directory : Directory) : DirectoryChange → Directory
  | .addRoom school record => directory.addRoom school record
  | .addMachine machine => directory.addMachine machine
  | .addAccount account => directory.addAccount account
  | .outage .room failure => { directory with outages.room := failure }
  | .outage .machine failure => { directory with outages.machine := failure }
  | .outage .user failure => { directory with outages.user := failure }

end ComputerRoom
