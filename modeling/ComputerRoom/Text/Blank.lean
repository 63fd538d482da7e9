/-! Blank characters, and the ways a text is trimmed and cut at them. -/

namespace ComputerRoom.Text

/-- The blank characters: every character with the Unicode property White_Space. -/
def isBlank (char : Char) : Bool :=
  let code := char.toNat
  -- The six ASCII blanks, then the separators beyond ASCII.
  (0x09 ≤ code && code ≤ 0x0d) || code == 0x20 || code == 0x85 || code == 0xa0 ||
    code == 0x1680 || (0x2000 ≤ code && code ≤ 0x200a) || code == 0x2028 || code == 0x2029 ||
    code == 0x202f || code == 0x205f || code == 0x3000

/-- A text without its blanks at the front. -/
def trimStart (text : List Char) : List Char :=
  text.dropWhile isBlank

/-- A text without its blanks at the back. -/
def trimEnd (text : List Char) : List Char :=
  (text.reverse.dropWhile isBlank).reverse

/-- A text without its blanks at both ends. -/
def trimmed (text : List Char) : List Char :=
  trimEnd (trimStart text)

/-- A string without its blanks at both ends. -/
def trim (text : String) : String :=
  String.ofList (trimmed text.toList)

/-- The pieces between the characters that `isCut` selects, empty ones included. -/
def pieces (isCut : Char → Bool) : List Char → List (List Char)
  | [] => [[]]
  | char :: rest =>
    if isCut char then [] :: pieces isCut rest
    else
      match pieces isCut rest with
      | [] => [[char]]
      | piece :: others => (char :: piece) :: others

/-- The maximal runs of characters that are not blank, in order. -/
def fields (text : List Char) : List (List Char) :=
  (pieces isBlank text).filter fun piece => !piece.isEmpty

/-- The lines of a text; a carriage return before a line feed stays, since it is blank. -/
def lines (text : List Char) : List (List Char) :=
  pieces (· == '\n') text

end ComputerRoom.Text
