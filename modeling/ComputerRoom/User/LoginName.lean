import ComputerRoom.Directory.Failure
import ComputerRoom.Text.Blank

/-! The login name inside the text by which an agent reports a user. -/

namespace ComputerRoom.LoginName

/-- What stands after the last occurrence of a character, or the whole text without one. -/
def afterLast (mark : Char) (text : List Char) : List Char :=
  (text.reverse.takeWhile (· != mark)).reverse

/--
The login name in `name`, `name (Full Name)` or `DOMAIN\name`: what comes before the first bracket
and after the last backslash before it. Blanks are trimmed before, between and after the cuts.
-/
def bare (lookup : List Char) : List Char :=
  let outside := Text.trimEnd ((Text.trimmed lookup).takeWhile (· != '('))
  Text.trimmed (afterLast '\\' outside)

/-- The login name in a lookup text, if any name is left in it. -/
def parse? (lookup : String) : Option String :=
  match bare lookup.toList with
  | [] => none
  | name => some (String.ofList name)

/-- The login name in a lookup text; a text in which no name is left is no key. -/
def parse (lookup : String) : Except DirectoryFailure String :=
  match parse? lookup with
  | none => .error (.missingKey lookup)
  | some name => .ok name

end ComputerRoom.LoginName
