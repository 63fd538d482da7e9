import ComputerRoom.Toml.Lexical

/-! Dates and times of day. -/

namespace ComputerRoom.Toml

/-- The number of days in a month. -/
def daysIn (year month : Nat) : Nat :=
  let isLeap := year % 4 == 0 && (year % 100 != 0 || year % 400 == 0)
  if month == 2 then (if isLeap then 29 else 28)
  else if month == 4 || month == 6 || month == 9 || month == 11 then 30
  else 31

/-- A date: year, month and day. -/
def date : Reader Unit := fun text => do
  let (year, rest) ← fixedDigits 4 text
  let (month, rest) ← fixedDigits 2 (← after? '-' rest)
  let (day, rest) ← fixedDigits 2 (← after? '-' rest)
  if 1 ≤ month && month ≤ 12 && 1 ≤ day && day ≤ daysIn year month then some ((), rest) else none

/-- The part of a second after a point, or nothing. -/
def skipSecondFraction (text : List Char) : List Char :=
  match text with
  | '.' :: rest =>
    match rest.dropWhile Char.isDigit with
    | last => if last.length == rest.length then text else last
  | _ => text

/-- A time of day, in which a leap second may be the sixty-first. -/
def timeOfDay : Reader Unit := fun text => do
  let (hour, rest) ← fixedDigits 2 text
  let (minute, rest) ← fixedDigits 2 (← after? ':' rest)
  let (second, rest) ← fixedDigits 2 (← after? ':' rest)
  if hour ≤ 23 && minute ≤ 59 && second ≤ 60 then some ((), skipSecondFraction rest) else none

/-- How far a time of day lies from universal time. -/
def offset : Reader Unit
  | sign :: rest =>
    if sign == 'Z' || sign == 'z' then some ((), rest)
    else if sign == '+' || sign == '-' then do
      let (hour, rest) ← fixedDigits 2 rest
      let (minute, rest) ← fixedDigits 2 (← after? ':' rest)
      if hour ≤ 23 && minute ≤ 59 then some ((), rest) else none
    else none
  | [] => none

/-- A time of day that may be followed by its offset. -/
def offsetTime : Reader Unit := fun text => do
  let ((), rest) ← timeOfDay text
  some ((offset rest).getD ((), rest))

/-- A date that may be followed by a time of day. -/
def dateAndTime : Reader Unit := fun text => do
  let ((), rest) ← date text
  match rest with
  | mark :: next =>
    if mark == 'T' || mark == 't' || mark == ' ' then some ((offsetTime next).getD ((), rest))
    else some ((), rest)
  | [] => some ((), rest)

/-- A date, a time of day, or both, as they are spelled. -/
def moment : Reader String := fun text => do
  let ((), rest) ← (dateAndTime text).orElse fun _ => timeOfDay text
  some (String.ofList (taken text rest), rest)

end ComputerRoom.Toml
