import ComputerRoom.Toml.Number
import ComputerRoom.Toml.Section

/-! How sections of settings are written, each text in the plainest form that can hold it. -/

namespace ComputerRoom.Toml

/-- The forms of a text: escaped or literal, on one line or between triple quotes. -/
inductive TextForm where
  | basic
  | literal
  | basicLines
  | literalLines
  deriving Repr, DecidableEq

/-- Whether a character can be written by its code only: a control other than tab and line feed. -/
def needsCode (char : Char) : Bool :=
  (char.toNat < 0x20 && char != '\t' && char != '\n') || char.toNat == 0x7f

/-- Whether a text has three equal quotes in a row. -/
def hasTriple (quote : Char) : List Char → Bool
  | [] => false
  | char :: rest =>
    (char == quote && rest.take 2 == [quote, quote]) || hasTriple quote rest

/-- The first form that can hold a text, a plain one being preferred to an escaped one. -/
def formFor (text : List Char) : TextForm :=
  let coded := text.any needsCode
  let broken := text.contains '\n'
  if !coded && !text.contains '\\' && !text.contains '"' && !broken then .basic
  else if !coded && !text.contains '\x27' && !broken then .literal
  else if !coded && !text.contains '\\' && !hasTriple '"' text then .basicLines
  else if !coded && !hasTriple '\x27' text then .literalLines
  -- What is left has to be escaped, and keeps its lines if it has several.
  else if broken then .basicLines
  else .basic

/-- The four upper-case hexadecimal digits of a code. -/
def codeDigits (code : Nat) : List Char :=
  [code / 4096 % 16, code / 256 % 16, code / 16 % 16, code % 16].map fun value =>
    (Text.hexDigit value).toUpper

/-- How a character other than a quote and a line feed is written where escapes are read. -/
def escapeChar (char : Char) : List Char :=
  match char with
  | '\x08' => ['\\', 'b']
  | '\t' => ['\\', 't']
  | '\x0c' => ['\\', 'f']
  | '\r' => ['\\', 'r']
  | '\\' => ['\\', '\\']
  | _ => if needsCode char then ['\\', 'u'] ++ codeDigits char.toNat else [char]

/-- How a character is written in an escaped text on one line. -/
def escapeInLine (char : Char) : List Char :=
  match char with
  | '"' => ['\\', '"']
  | '\n' => ['\\', 'n']
  | _ => escapeChar char

/-- An escaped text between triple quotes, after `run` quotes; every third quote is escaped. -/
def escapeLines (run : Nat) : List Char → List Char
  | [] => []
  | '"' :: rest =>
    -- A third quote in a row would end the text.
    if run == 2 then '\\' :: '"' :: escapeLines 0 rest else '"' :: escapeLines (run + 1) rest
  | '\n' :: rest => '\n' :: escapeLines 0 rest
  | char :: rest => escapeChar char ++ escapeLines 0 rest

/-- The line feed after opening triple quotes, which a reader skips; one line needs none. -/
def openingLine (text : List Char) : List Char :=
  if text.contains '\n' then ['\n'] else []

/-- A text in a form. -/
def printText (text : List Char) : TextForm → List Char
  | .basic => ['"'] ++ text.flatMap escapeInLine ++ ['"']
  | .literal => ['\x27'] ++ text ++ ['\x27']
  | .basicLines =>
    ['"', '"', '"'] ++ openingLine text ++ escapeLines 0 text ++ ['"', '"', '"']
  | .literalLines =>
    ['\x27', '\x27', '\x27'] ++ openingLine text ++ text ++ ['\x27', '\x27', '\x27']

/-- A text in the first form that can hold it. -/
def print (text : String) : List Char :=
  printText text.toList (formFor text.toList)

/-- A text on a line of its own in a list. -/
def printItem (text : String) : List Char :=
  [' ', ' ', ' ', ' '] ++ print text ++ [',', '\n']

/-- A list of texts: on one line if it holds one at most, and else a line for each. -/
def printTexts : List String → List Char
  | [] => ['[', ']']
  | [only] => ['['] ++ print only ++ [']']
  | many => ['[', '\n'] ++ many.flatMap printItem ++ [']']

/-- The value of a setting; an integer of more than sixty-three bits cannot be written. -/
def printSetting? : Setting → Option (List Char)
  | .integer value => if value < int64Bound then some (Nat.toDigits 10 value) else none
  | .boolean true => some "true".toList
  | .boolean false => some "false".toList
  | .texts values => some (printTexts values)

/-- The line, or lines, of a setting. -/
def printLine? (setting : String × Setting) : Option (List Char) :=
  (printSetting? setting.2).map fun value => setting.1.toList ++ [' ', '=', ' '] ++ value ++ ['\n']

/-- A section: its header, and its settings in order. -/
def printSection? (part : Section) : Option (List Char) := do
  let lines ← part.settings.mapM printLine?
  return ['['] ++ part.name.toList ++ [']', '\n'] ++ lines.flatten

/-- Sections with an empty line between them, if every setting can be written. -/
def printSections? (sections : List Section) : Option String := do
  let parts ← sections.mapM printSection?
  return String.ofList (['\n'].intercalate parts)

end ComputerRoom.Toml
