/-! Readers of text: what a reader takes from the front of a text, and reading again and again. -/

namespace ComputerRoom.Toml

/-- Takes a value from the front of a text and leaves the rest, or refuses the text. -/
abbrev Reader (α : Type) := List Char → Option (α × List Char)

/-- What one round of a repeated reading comes to: an item and what follows it, or the end. -/
inductive Round (α : Type) where
  | item (value : α) (rest : List Char)
  | stop (rest : List Char)

/-- Reads items round by round until one stops; `limit` is more than the number of items. -/
def roundsWithin {α : Type} (round : List Char → Option (Round α)) : Nat → Reader (List α)
  | 0, _ => none
  | limit + 1, text =>
    match round text with
    | none => none
    | some (.stop rest) => some ([], rest)
    | some (.item value rest) =>
      match roundsWithin round limit rest with
      | none => none
      | some (values, last) => some (value :: values, last)

/-- Reads items round by round until one stops, each of them taking at least one character. -/
def repeated {α : Type} (round : List Char → Option (Round α)) : Reader (List α) := fun text =>
  roundsWithin round (text.length + 1) text

/-- The front of a text that a reader took, given what it left. -/
def taken (text rest : List Char) : List Char :=
  text.take (text.length - rest.length)

end ComputerRoom.Toml
