import ComputerRoom.Text.Quoted

/-! The ways a directory query can fail. -/

namespace ComputerRoom

/-- Why a directory query has no answer. -/
inductive DirectoryFailure where
  | notFound (query : String)
  | ambiguous (query : String) (count : Nat)
  | missingKey (query : String)
  | backend (text : String)
  deriving Repr, DecidableEq

/-- The wording of a failure. -/
def DirectoryFailure.message : DirectoryFailure → String
  | notFound query => "no directory object matches " ++ Text.quoted query
  | ambiguous query count =>
    toString count ++ " directory objects match " ++ Text.quoted query ++ ", expected exactly one"
  | missingKey query => "invalid lookup key " ++ Text.quoted query ++ ": name missing"
  | backend text => "directory backend error: " ++ text

end ComputerRoom
