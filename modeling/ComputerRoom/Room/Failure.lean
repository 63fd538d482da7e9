import ComputerRoom.Directory.Failure
import ComputerRoom.Endpoint.Failure

/-! The ways an operation on a room can fail. -/

namespace ComputerRoom

/-- Why an operation on a room failed. -/
inductive RoomFailure where
  | notFound (query : String)
  | ambiguous (query : String) (count : Nat)
  | empty (room : String)
  | unknownEndpoint (name : String)
  | directory (failure : DirectoryFailure)
  | lockTimeout (timeout : LockTimeout)
  | endpoint (failure : EndpointFailure)
  deriving Repr, DecidableEq

namespace RoomFailure

/-- The wording of a failure. -/
def message : RoomFailure → String
  | notFound query => "unknown computer room " ++ Text.quoted query
  | ambiguous query count =>
    "did not find exactly one room for " ++ Text.quoted query ++
      " (count: " ++ toString count ++ ")"
  | empty room => "there are no computers in room " ++ Text.quoted room
  | unknownEndpoint name => "unknown computer " ++ Text.quoted name
  | directory failure => "directory lookup failed: " ++ failure.message
  | lockTimeout timeout => timeout.message
  | endpoint failure => failure.message

/-- What a failure of the directory means to someone who asked for a room. -/
def ofQuery (query : String) : DirectoryFailure → RoomFailure
  | .notFound _ => notFound query
  | .ambiguous _ count => ambiguous query count
  | failure => directory failure

end RoomFailure

end ComputerRoom
