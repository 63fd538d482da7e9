import ComputerRoom.Text.CaseTable

/-!
Lower-casing by the full Unicode mapping: a capital I with dot gives two characters, and a capital
sigma at the end of a word gives the final form.
-/

namespace ComputerRoom.Text

/-- Whether a character has letter case. -/
def isCased (char : Char) : Bool :=
  if char.toNat < 0x80 then char.isAlpha else casedRanges.contains char

/-- Whether a character inside a word is skipped when its neighbours' case is asked for. -/
def isCaseIgnorable (char : Char) : Bool :=
  if char.toNat < 0x80 then
    char == '\x27' || char == '.' || char == ':' || char == '^' || char == '\x60'
  else caseIgnorableRanges.contains char

/-- Whether a run of case moves this character. -/
def CaseRun.covers (run : CaseRun) (char : Char) : Bool :=
  run.first ≤ char.toNat && char.toNat ≤ run.last && (char.toNat - run.first) % run.step == 0

/-- The lower-case form of a single character, whatever stands around it. -/
def lowerChar (char : Char) : List Char :=
  if char.toNat < 0x80 then [char.toLower]
  else if char == '\u0130' then ['i', '\u0307']
  else
    match lowerRuns.find? (·.covers char) with
    | some run => [Char.ofNat (char.toNat + run.shift).toNat]
    | none => [char]

/-- Whether the nearest character that counts for case is a cased one. -/
def meetsCased (neighbours : List Char) : Bool :=
  match neighbours.dropWhile isCaseIgnorable with
  | [] => false
  | char :: _ => isCased char

/-- Lower-cases `rest`, the characters in `before` having come first in reverse order. -/
def lowerAfter (before : List Char) : List Char → List Char
  | [] => []
  | char :: rest =>
    -- Only the capital sigma looks at its surroundings.
    if char == 'Σ' then
      let isFinal := meetsCased before && !meetsCased rest
      (if isFinal then 'ς' else 'σ') :: lowerAfter (char :: before) rest
    else lowerChar char ++ lowerAfter (char :: before) rest

/-- The lower-case form of a text. -/
def lowered (text : List Char) : List Char :=
  lowerAfter [] text

/-- The lower-case form of a string. -/
def lower (text : String) : String :=
  String.ofList (lowered text.toList)

/-- Whether two strings are equal when ASCII letters of either case are taken as one. -/
def equalIgnoringAsciiCase (left right : String) : Bool :=
  left.toList.map Char.toLower == right.toList.map Char.toLower

end ComputerRoom.Text
