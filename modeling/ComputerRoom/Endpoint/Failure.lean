import ComputerRoom.Network.Wake

/-! The ways an operation on a supervised machine can fail. -/

namespace ComputerRoom

/-- A cell that other work held for longer than the time allowed. -/
structure LockTimeout where
  seconds : Nat
  deriving Repr, DecidableEq

/-- The wording of a lock timeout. -/
def LockTimeout.message (timeout : LockTimeout) : String :=
  "could not lock attribute within " ++ toString timeout.seconds ++ "s"

/-- Why an operation on an endpoint failed. -/
inductive EndpointFailure where
  | missingAddress (machine : String)
  | lockTimeout (timeout : LockTimeout)
  | wake (failure : WakeFailure)
  deriving Repr, DecidableEq

/-- The wording of a failure. -/
def EndpointFailure.message : EndpointFailure → String
  | missingAddress machine => "machine " ++ machine ++ " has no IP address"
  | lockTimeout timeout => timeout.message
  | wake failure => "power on failed: " ++ failure.message

end ComputerRoom
