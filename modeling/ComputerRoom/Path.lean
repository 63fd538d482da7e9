import ComputerRoom.Text.Blank
import ComputerRoom.Text.Utf8

/-! Paths as they are written: the names along them, and the folders they lie in. -/

namespace ComputerRoom.Path

/-- The texts before, between and after the slashes of a path. -/
def names (path : String) : List String :=
  (Text.pieces (· == '/') path.toList).map String.ofList

/-- Whether a name leads nowhere from a folder. -/
def isIdle (name : String) : Bool :=
  name == "" || name == "."

/-- Whether a name is longer than any name can be, in octets. -/
def isTooLong (name : String) : Bool :=
  255 < Text.utf8Length name.toList

/-- Whether a text can be a path at all: it holds no null and is not too long. -/
def isUsable (path : String) : Bool :=
  !path.toList.contains '\x00' && Text.utf8Length path.toList < 4096

/-- Names without the idle ones at their end; a dot in front of everything is a folder itself. -/
def trimIdle : List String → List String
  | [] => []
  | first :: rest =>
    match (rest.reverse.dropWhile isIdle).reverse with
    | [] => if first == "" then [] else [first]
    | kept => first :: kept

/-- The path of the folder that a path lies in, as far as it is written out. -/
def parent? (path : String) : Option String :=
  match trimIdle (names path) with
  | [] => none
  | kept => some ("/".intercalate (trimIdle kept.dropLast))

/-- Appends a path to a base, with a slash between them unless the base needs none. -/
def join (base path : String) : String :=
  if base.isEmpty || base.toList.getLast? == some '/' then base ++ path
  else base ++ "/" ++ path

end ComputerRoom.Path
