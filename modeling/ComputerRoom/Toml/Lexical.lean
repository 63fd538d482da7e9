import ComputerRoom.Toml.Reader
import ComputerRoom.Text.Numeral

/-! Blanks, comments, line ends and rows of digits. -/

namespace ComputerRoom.Toml

/-- The blanks inside a line. -/
def isSpace (char : Char) : Bool :=
  char == ' ' || char == '\t'

/-- A text without the blanks at its front. -/
def skipSpaces (text : List Char) : List Char :=
  text.dropWhile isSpace

/-- The characters that a comment or a text on one line may hold: no controls but the tab. -/
def isVisible (char : Char) : Bool :=
  char == '\t' || (0x20 ≤ char.toNat && char.toNat != 0x7f)

/-- What follows a line end, if the text begins with one. -/
def afterNewline? : List Char → Option (List Char)
  | '\n' :: rest => some rest
  | '\r' :: '\n' :: rest => some rest
  | _ => none

/-- A text without the comment at its front. -/
def skipComment : List Char → List Char
  | '#' :: rest => rest.dropWhile isVisible
  | text => text

/-- What follows the line, if only blanks and a comment are left of it. -/
def afterLine? (text : List Char) : Option (List Char) :=
  match skipComment (skipSpaces text) with
  | [] => some []
  | rest => afterNewline? rest

/-- A text without the blanks and line ends at its front. -/
def skipWhite : List Char → List Char
  | [] => []
  | char :: rest =>
    if isSpace char || char == '\n' then skipWhite rest
    else if char == '\r' && rest.head? == some '\n' then skipWhite rest
    else char :: rest

/-- A text without the blanks, line ends and comments at its front, which may be in a comment. -/
def skipGapsFrom (inComment : Bool) : List Char → List Char
  | [] => []
  | char :: rest =>
    if inComment && isVisible char then skipGapsFrom true rest
    else if isSpace char || char == '\n' then skipGapsFrom false rest
    else if char == '\r' && rest.head? == some '\n' then skipGapsFrom false rest
    else if char == '#' then skipGapsFrom true rest
    else char :: rest

/-- A text without the blanks, line ends and comments at its front. -/
def skipGaps (text : List Char) : List Char :=
  skipGapsFrom false text

/-- The digits at the front of a text, where one underscore may stand between two of them. -/
def moreDigits (isDigit : Char → Bool) : List Char → List Char × List Char
  | [] => ([], [])
  | char :: rest =>
    if isDigit char then
      let (digits, last) := moreDigits isDigit rest
      (char :: digits, last)
    else if char == '_' && rest.head?.any isDigit then moreDigits isDigit rest
    else ([], char :: rest)

/-- A row of at least one digit, with single underscores allowed between digits. -/
def digitRow (isDigit : Char → Bool) : Reader (List Char)
  | [] => none
  | char :: rest => if isDigit char then some (moreDigits isDigit (char :: rest)) else none

/-- A row of exactly `count` decimal digits, as a number. -/
def fixedDigits (count : Nat) : Reader Nat := fun text =>
  let digits := text.take count
  if digits.length == count && digits.all Char.isDigit then
    some (Text.numeral 10 digits, text.drop count)
  else none

/-- What follows a character, if the text begins with it. -/
def after? (char : Char) : List Char → Option (List Char)
  | [] => none
  | first :: rest => if first == char then some rest else none

end ComputerRoom.Toml
