import ComputerRoom.Toml.Lexical

/-! Texts between quotes: on one line or on several, with escapes or literal. -/

namespace ComputerRoom.Toml

/-- A character given by the hexadecimal digits of its code; half of a surrogate pair is none. -/
def codedChar? (digits : List Char) : Option Char :=
  let code := Text.numeral 16 digits
  if digits.all Text.isHexDigit && code.isValidChar then some (Char.ofNat code) else none

/-- The character that an escape stands for, the backslash having been read. -/
def escapedChar : Reader Char
  | 'b' :: rest => some ('\x08', rest)
  | 't' :: rest => some ('\t', rest)
  | 'n' :: rest => some ('\n', rest)
  | 'f' :: rest => some ('\x0c', rest)
  | 'r' :: rest => some ('\r', rest)
  | '"' :: rest => some ('"', rest)
  | '\\' :: rest => some ('\\', rest)
  | 'u' :: rest =>
    if rest.length < 4 then none else (codedChar? (rest.take 4)).map (·, rest.drop 4)
  | 'U' :: rest =>
    if rest.length < 8 then none else (codedChar? (rest.take 8)).map (·, rest.drop 8)
  | _ => none

/-- One round inside a text on one line with escapes. -/
def basicRound : List Char → Option (Round Char)
  | [] => none
  | '"' :: rest => some (.stop rest)
  | '\\' :: rest => (escapedChar rest).map fun (char, last) => .item char last
  | char :: rest => if isVisible char then some (.item char rest) else none

/-- One round inside a literal text on one line. -/
def literalRound : List Char → Option (Round Char)
  | [] => none
  | '\x27' :: rest => some (.stop rest)
  | char :: rest => if isVisible char then some (.item char rest) else none

/--
One round at a quote inside a text between triple quotes. The last three quotes of a run of three to
five end the text; a shorter run belongs to it.
-/
def quoteRound (quote : Char) (rest : List Char) : Option (Round (List Char)) :=
  match after? quote rest >>= after? quote with
  | none => some (.item [quote] rest)
  | some last =>
    match after? quote last with
    | none => some (.stop last)
    | some more =>
      if (after? quote more >>= after? quote).isSome then none else some (.item [quote] rest)

/-- One round inside a text between triple quotes with escapes; a line end is always a line feed. -/
def basicLinesRound : List Char → Option (Round (List Char))
  | [] => none
  | '"' :: rest => quoteRound '"' rest
  | '\\' :: rest =>
    -- A backslash at the end of a line joins it with the next text.
    match afterNewline? (skipSpaces rest) with
    | some next => some (.item [] (skipWhite next))
    | none => (escapedChar rest).map fun (char, last) => .item [char] last
  | char :: rest =>
    if isVisible char then some (.item [char] rest)
    else (afterNewline? (char :: rest)).map (.item ['\n'])

/-- One round inside a literal text between triple quotes; a line end is always a line feed. -/
def literalLinesRound : List Char → Option (Round (List Char))
  | [] => none
  | '\x27' :: rest => quoteRound '\x27' rest
  | char :: rest =>
    if isVisible char then some (.item [char] rest)
    else (afterNewline? (char :: rest)).map (.item ['\n'])

/-- A text without the line end right after its opening triple quotes. -/
def skipFirstNewline (text : List Char) : List Char :=
  (afterNewline? text).getD text

/-- A text on one line, its opening quote having been read. -/
def lineText (round : List Char → Option (Round Char)) : Reader String := fun text =>
  (repeated round text).map fun (chars, rest) => (String.ofList chars, rest)

/-- A text between triple quotes, the opening ones having been read. -/
def linesText (round : List Char → Option (Round (List Char))) : Reader String := fun text =>
  (repeated round (skipFirstNewline text)).map fun (parts, rest) =>
    (String.ofList parts.flatten, rest)

/-- A text in any of its four forms. -/
def quotedText : Reader String
  | '"' :: '"' :: '"' :: rest => linesText basicLinesRound rest
  | '"' :: rest => lineText basicRound rest
  | '\x27' :: '\x27' :: '\x27' :: rest => linesText literalLinesRound rest
  | '\x27' :: rest => lineText literalRound rest
  | _ => none

/-- A text on one line, as keys are quoted. -/
def quotedKey : Reader String
  | '"' :: rest => lineText basicRound rest
  | '\x27' :: rest => lineText literalRound rest
  | _ => none

end ComputerRoom.Toml
