/-! How much room a text takes in UTF-8, and the parts of it between two octets. -/

namespace ComputerRoom.Text

/-- The number of octets that a text takes in UTF-8. -/
def utf8Length : List Char → Nat
  | [] => 0
  | char :: rest => char.utf8Size + utf8Length rest

/-- A text cut behind some of its octets, unless it has fewer or the cut is inside a character. -/
def cutAt? : Nat → List Char → Option (List Char × List Char)
  | 0, text => some ([], text)
  | _ + 1, [] => none
  | octets + 1, char :: rest =>
    if octets + 1 < char.utf8Size then none
    else do
      let (front, back) ← cutAt? (octets + 1 - char.utf8Size) rest
      return (char :: front, back)

/-- The part of a text between two numbers of octets, if both cuts can be made. -/
def slice? (text : List Char) (start stop : Nat) : Option (List Char) := do
  let (front, _) ← cutAt? stop text
  let (_, part) ← cutAt? start front
  return part

end ComputerRoom.Text
