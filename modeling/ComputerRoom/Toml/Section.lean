import ComputerRoom.Data

/-! Settings under their names, in named sections. -/

namespace ComputerRoom

/-- What a named setting holds. -/
inductive Setting where
  | integer (value : Nat)
  | boolean (value : Bool)
  | texts (values : List String)
  deriving Repr, DecidableEq

/-- A setting as data. -/
def Setting.toData : Setting → Data
  | integer value => .integer value
  | boolean value => .boolean value
  | texts values => .ofTexts values

/-- A named section and its named settings in order. -/
structure Section where
  name : String
  settings : List (String × Setting)
  deriving Repr, DecidableEq

end ComputerRoom
