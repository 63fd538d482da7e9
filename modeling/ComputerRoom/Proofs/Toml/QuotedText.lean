import ComputerRoom.Proofs.Toml.Rounds
import ComputerRoom.Toml.Print
import ComputerRoom.Toml.QuotedText

/-! A text that was written in any of its forms reads back as itself. -/

namespace ComputerRoom.Toml

/-- A character that needs no code and ends no line can stand in a text as it is. -/
theorem isVisible_of_plain {char : Char} (plain : needsCode char = false) (within : char ≠ '\n') :
    isVisible char = true := by
  -- What a text cannot hold needs a code, but for the line feed.
  by_cases tab : char = '\t'
  · simp [isVisible, tab]
  · simp only [needsCode, Bool.or_eq_false_iff, Bool.and_eq_false_iff, decide_eq_false_iff_not,
      bne_eq_false_iff_eq, tab, within, or_false] at plain
    have high : 0x20 ≤ char.toNat := Nat.not_lt.mp plain.1
    simp [isVisible, high, plain.2, bne]

/-- The digits of a code below 128 stand for the character of that code. -/
theorem codedChar?_codeDigits :
    ∀ code < 128, codedChar? (codeDigits code) = some (Char.ofNat code) := by
  decide

/-- A character that needs a code reads back from it. -/
theorem escapedChar_codeDigits {char : Char} (coded : needsCode char = true) (rest : List Char) :
    escapedChar ('u' :: codeDigits char.toNat ++ rest) = some (char, rest) := by
  have low : char.toNat < 128 := by
    simp only [needsCode, Bool.or_eq_true, Bool.and_eq_true, decide_eq_true_eq, beq_iff_eq] at coded
    omega
  have digits := codedChar?_codeDigits char.toNat low
  rw [Char.ofNat_toNat] at digits
  -- A code has four digits, so that none is missing and none is left over.
  have four : (codeDigits char.toNat).length = 4 := rfl
  have front : (codeDigits char.toNat ++ rest).take 4 = codeDigits char.toNat :=
    List.take_left' four
  have back : (codeDigits char.toNat ++ rest).drop 4 = rest := List.drop_left' four
  simp [escapedChar, four, front, back, digits]

/--
A character is written behind a backslash, with a mark that no line end begins with, or else it
stands for itself.
-/
theorem escapeChar_cases {char : Char} (unquoted : char ≠ '"') (within : char ≠ '\n') :
    (∃ mark body, escapeChar char = '\\' :: mark :: body ∧ isVisible mark = true ∧
        isSpace mark = false ∧ ∀ rest, escapedChar (mark :: body ++ rest) = some (char, rest)) ∨
      (escapeChar char = [char] ∧ isVisible char = true ∧ char ≠ '\\') := by
  unfold escapeChar
  split
  · exact .inl ⟨'b', [], rfl, rfl, rfl, fun rest => rfl⟩
  · exact .inl ⟨'t', [], rfl, rfl, rfl, fun rest => rfl⟩
  · exact .inl ⟨'f', [], rfl, rfl, rfl, fun rest => rfl⟩
  · exact .inl ⟨'r', [], rfl, rfl, rfl, fun rest => rfl⟩
  · exact .inl ⟨'\\', [], rfl, rfl, rfl, fun rest => rfl⟩
  · rename_i unescaped
    -- Without a short escape, the code decides.
    cases coded : needsCode char with
    | true => exact .inl ⟨'u', codeDigits char.toNat, rfl, rfl, rfl, escapedChar_codeDigits coded⟩
    | false => exact .inr ⟨rfl, isVisible_of_plain coded within, unescaped⟩

/-- One round takes one character that is written on one line. -/
theorem basicRound_escapeInLine (char : Char) (rest : List Char) :
    basicRound (escapeInLine char ++ rest) = some (.item char rest) := by
  -- Quotes and line feeds have escapes of their own here; the rest is as between triple quotes.
  unfold escapeInLine
  split
  · rfl
  · rfl
  · rename_i unquoted within
    obtain ⟨mark, body, written, _, _, escaped⟩ | ⟨written, visible, unescaped⟩ :=
      escapeChar_cases unquoted within
    · have reads := escaped rest
      rw [List.cons_append] at reads
      simp [written, basicRound, reads]
    · simp [written, basicRound, visible]

/-- A text that is written on one line with escapes takes a round for each of its characters. -/
theorem rounds_basic (text rest : List Char) :
    Rounds basicRound (text.flatMap escapeInLine ++ '"' :: rest) text rest := by
  induction text with
  | nil => exact .stop rfl
  | cons char later ih =>
    rw [List.flatMap_cons, List.append_assoc]
    exact .front _ nofun (basicRound_escapeInLine char) ih

/-- A text without quotes that can stand on one line takes a round for each of its characters. -/
theorem rounds_literal {text : List Char} (visible : ∀ char ∈ text, isVisible char = true)
    (unquoted : '\x27' ∉ text) (rest : List Char) :
    Rounds literalRound (text ++ '\x27' :: rest) text rest := by
  induction text with
  | nil => exact .stop rfl
  | cons char later ih =>
    obtain ⟨shown, visible⟩ := List.forall_mem_cons.mp visible
    obtain ⟨other, unquoted⟩ : '\x27' ≠ char ∧ '\x27' ∉ later := by simpa using unquoted
    refine .item ?_ (Nat.lt_succ_self _) (ih visible unquoted)
    simp [literalRound, shown, Ne.symm other]

/-- A character is followed by what comes after it, if it is the one that is asked for. -/
@[simp] theorem after?_cons (char first : Char) (rest : List Char) :
    after? char (first :: rest) = if first == char then some rest else none := rfl

/-- A text has no blanks at its front, if it begins with another character. -/
theorem skipSpaces_cons {char : Char} (solid : isSpace char = false) (rest : List Char) :
    skipSpaces (char :: rest) = char :: rest :=
  List.dropWhile_cons_of_neg (by simp [solid])

/-- No line ends where a text begins with a character that it can hold. -/
theorem afterNewline?_of_isVisible {char : Char} (visible : isVisible char = true)
    (rest : List Char) : afterNewline? (char :: rest) = none := by
  unfold afterNewline?
  split
  · simp_all [isVisible]
  · simp_all [isVisible]
  · rfl

section Lines

variable {quote : Char} {rest : List Char}

/-- A quote belongs to a text, if no two of its kind come between it and the three at the end. -/
theorem quoteRound_of_single {body : List Char} (single : body.take 2 ≠ [quote, quote])
    (ends : rest.head? ≠ some quote) :
    quoteRound quote (body ++ quote :: quote :: quote :: rest) =
      some (.item [quote] (body ++ quote :: quote :: quote :: rest)) := by
  -- With at most one more quote before the end, the run is of four or five.
  have beyond : after? quote rest = none := by
    cases rest with
    | nil => rfl
    | cons next _ => simpa [after?] using ends
  match body with
  | [] => simp [quoteRound, beyond]
  | [only] =>
    by_cases same : only = quote
    · simp [quoteRound, beyond, same]
    · simp [quoteRound, same]
  | first :: second :: _ =>
    by_cases same : first = quote
    · have other : second ≠ quote := by
        intro again
        simp [same, again] at single
      simp [quoteRound, same, other]
    · simp [quoteRound, same]

/-- Three quotes end a text, if no other of their kind follows. -/
theorem quoteRound_at_end (ends : rest.head? ≠ some quote) :
    quoteRound quote (quote :: quote :: rest) = some (.stop rest) := by
  cases rest with
  | nil => simp [quoteRound, after?]
  | cons next later =>
    have other : next ≠ quote := by simpa using ends
    simp [quoteRound, other]

end Lines

/-- One round takes one character that is written between triple quotes. -/
theorem basicLinesRound_escapeChar {char : Char} (unquoted : char ≠ '"') (within : char ≠ '\n')
    (rest : List Char) :
    basicLinesRound (escapeChar char ++ rest) = some (.item [char] rest) := by
  obtain ⟨mark, body, written, shown, unspaced, escaped⟩ | ⟨written, visible, unescaped⟩ :=
    escapeChar_cases unquoted within
  · have reads := escaped rest
    -- The mark is neither blank nor the end of a line, so the backslash does not join lines.
    have joins : afterNewline? (skipSpaces (mark :: body ++ rest)) = none := by
      rw [List.cons_append, skipSpaces_cons unspaced]
      exact afterNewline?_of_isVisible shown _
    rw [List.cons_append] at reads joins
    simp [written, basicLinesRound, joins, reads]
  · simp [written, basicLinesRound, visible]

/-- Two equal quotes come first, if one comes first and the other one next. -/
theorem take_two_iff {quote : Char} {text : List Char} :
    text.take 2 = [quote, quote] ↔ text.head? = some quote ∧ text.tail.head? = some quote := by
  match text with
  | [] | [_] | _ :: _ :: _ => simp

/-- Between triple quotes, every quote after two others is written behind a backslash. -/
theorem head?_escapeLines {run : Nat} {text : List Char}
    (third : text.head? = some '"' → run = 2) : (escapeLines run text).head? ≠ some '"' := by
  -- No other character is written with a quote at all.
  unfold escapeLines
  split
  · simp
  · rw [if_pos (beq_iff_eq.mpr (third rfl))]
    simp
  · simp
  · rename_i char rest unquoted within
    obtain ⟨mark, body, written, _⟩ | ⟨written, _⟩ := escapeChar_cases unquoted within
    · simp [written]
    · simpa [written] using unquoted

/-- After a quote that is written as it is, no two more are. -/
theorem take_escapeLines {run : Nat} (early : run < 2) (text : List Char) :
    (escapeLines (run + 1) text).take 2 ≠ ['"', '"'] := by
  rw [ne_eq, take_two_iff]
  intro ⟨first, second⟩
  by_cases quoted : text.head? = some '"' → run + 1 = 2
  · exact head?_escapeLines quoted first
  · -- The second quote of a run is written as it is, but not the third.
    obtain ⟨led, level⟩ := Classical.not_imp.mp quoted
    obtain ⟨rest, rfl⟩ := List.head?_eq_some_iff.mp led
    obtain rfl : run = 0 := by omega
    have third : rest.head? = some '"' → 2 = 2 := fun _ => rfl
    exact head?_escapeLines third second

/-- A text between triple quotes takes a round for each of its characters. -/
theorem rounds_basicLines {rest : List Char} (ends : rest.head? ≠ some '"') {run : Nat}
    (most : run ≤ 2) (text : List Char) :
    Rounds basicLinesRound (escapeLines run text ++ '"' :: '"' :: '"' :: rest)
      (text.map fun char => [char]) rest := by
  -- The run counts the quotes right before, and starts anew after every other character.
  induction text generalizing run with
  | nil => exact .stop (quoteRound_at_end ends)
  | cons char later ih =>
    by_cases quoted : char = '"'
    · rw [quoted, escapeLines]
      split
      · -- The third quote of a run is read behind its backslash.
        exact .front ['\\', '"'] nofun (fun _ => rfl) (ih (Nat.zero_le 2))
      · have early : run < 2 := by simp_all; omega
        have single := take_escapeLines early later
        exact .item (quoteRound_of_single single ends) (Nat.lt_succ_self _) (ih early)
    · by_cases broken : char = '\n'
      · rw [broken, escapeLines]
        exact .item rfl (Nat.lt_succ_self _) (ih (Nat.zero_le 2))
      · have written : escapeLines run (char :: later) =
            escapeChar char ++ escapeLines 0 later := by
          simp [escapeLines]
        rw [written, List.append_assoc]
        exact .front _ nofun (basicLinesRound_escapeChar quoted broken) (ih (Nat.zero_le 2))

/-- A literal text without three quotes in a row takes a round for each of its characters. -/
theorem rounds_literalLines {text rest : List Char}
    (visible : ∀ char ∈ text, char ≠ '\n' → isVisible char = true)
    (untripled : hasTriple '\x27' text = false) (ends : rest.head? ≠ some '\x27') :
    Rounds literalLinesRound (text ++ '\x27' :: '\x27' :: '\x27' :: rest)
      (text.map fun char => [char]) rest := by
  induction text with
  | nil => exact .stop (quoteRound_at_end ends)
  | cons char later ih =>
    obtain ⟨shown, visible⟩ := List.forall_mem_cons.mp visible
    simp only [hasTriple, Bool.or_eq_false_iff] at untripled
    obtain ⟨single, untripled⟩ := untripled
    refine .item ?_ (Nat.lt_succ_self _) (ih visible untripled)
    -- A quote is read as one of the text, for two more do not follow it.
    by_cases quoted : char = '\x27'
    · rw [quoted]
      exact quoteRound_of_single (by simpa [quoted] using single) ends
    · by_cases broken : char = '\n'
      · rw [broken]
        rfl
      · simp [literalLinesRound, shown broken]

/-- A text on one line is what its rounds come to. -/
theorem lineText_of_rounds {round : List Char → Option (Round Char)} {written text rest : List Char}
    (rounds : Rounds round written text rest) :
    lineText round written = some (String.ofList text, rest) := by
  simp [lineText, rounds.repeated_eq]

/-- A text between triple quotes is what its rounds come to, without an opening line feed. -/
theorem linesText_of_rounds {round : List Char → Option (Round (List Char))}
    {written text rest : List Char}
    (rounds : Rounds round written (text.map fun char => [char]) rest)
    (unbroken : '\n' ∉ text → afterNewline? written = none) :
    linesText round (openingLine text ++ written) = some (String.ofList text, rest) := by
  -- The form begins with a line feed, which is skipped, or else the text must not.
  have opened : skipFirstNewline (openingLine text ++ written) = written := by
    by_cases broken : '\n' ∈ text
    · simp [openingLine, broken, skipFirstNewline, afterNewline?]
    · simp [openingLine, broken, skipFirstNewline, unbroken broken]
  have joined : (text.map fun char => [char]).flatten = text := by
    rw [← List.flatMap_def, List.flatMap_singleton']
  simp [linesText, opened, rounds.repeated_eq, joined]

/-- A literal form on one line is chosen only for a text that can stand there as it is. -/
theorem of_formFor_literal {text : List Char} (chosen : formFor text = .literal) :
    (∀ char ∈ text, needsCode char = false) ∧ '\x27' ∉ text ∧ '\n' ∉ text := by
  -- Every other branch chooses another form.
  unfold formFor at chosen
  grind

/-- A literal form on several lines is chosen only for a text that can stand there as it is. -/
theorem of_formFor_literalLines {text : List Char} (chosen : formFor text = .literalLines) :
    (∀ char ∈ text, needsCode char = false) ∧ hasTriple '\x27' text = false := by
  -- Every other branch chooses another form.
  unfold formFor at chosen
  grind

/-- Where two equal quotes do not follow a first one, the text is on one line. -/
theorem quotedText_of_single {written : List Char} :
    (written.take 2 ≠ ['"', '"'] → quotedText ('"' :: written) = lineText basicRound written) ∧
      (written.take 2 ≠ ['\x27', '\x27'] →
        quotedText ('\x27' :: written) = lineText literalRound written) := by
  -- A third quote would have to come right after the second.
  constructor <;> intro single <;> unfold quotedText <;> split <;> simp_all

/-- What is written on one line does not begin with a quote. -/
theorem head?_escapeInLine (char : Char) (rest : List Char) :
    (escapeInLine char ++ rest).head? ≠ some '"' := by
  unfold escapeInLine
  split
  · simp
  · simp
  · rename_i unquoted within
    obtain ⟨mark, body, written, _⟩ | ⟨written, _⟩ := escapeChar_cases unquoted within
    · simp [written]
    · simpa [written] using unquoted

/-- Between triple quotes, a text that stays within its line does not begin with a line end. -/
theorem afterNewline?_escapeLines {text : List Char} (within : '\n' ∉ text) (rest : List Char) :
    afterNewline? (escapeLines 0 text ++ '"' :: rest) = none := by
  -- What comes first is the quote after the text, or the first character as it is written.
  match text with
  | [] => exact afterNewline?_of_isVisible rfl rest
  | char :: later =>
    by_cases quoted : char = '"'
    · rw [quoted, escapeLines, if_neg (by decide)]
      exact afterNewline?_of_isVisible rfl _
    · have inside : char ≠ '\n' := by
        rintro rfl
        exact within List.mem_cons_self
      obtain ⟨mark, body, written, _⟩ | ⟨written, visible, _⟩ := escapeChar_cases quoted inside
      · simpa [escapeLines, written] using afterNewline?_of_isVisible rfl _
      · simpa [escapeLines, written] using afterNewline?_of_isVisible visible _

/-- A text that was written reads back as itself, if no quote follows it. -/
theorem quotedText_print (text : String) {rest : List Char} (ends : rest.head? ≠ some '"')
    (ends' : rest.head? ≠ some '\x27') : quotedText (print text ++ rest) = some (text, rest) := by
  have same : String.ofList text.toList = text := String.ofList_toList
  unfold print
  cases form : formFor text.toList with
  | basic =>
    have single : (text.toList.flatMap escapeInLine ++ '"' :: rest).take 2 ≠ ['"', '"'] := by
      rw [ne_eq, take_two_iff]
      -- A quote comes first only if nothing was written.
      intro ⟨first, second⟩
      cases chars : text.toList with
      | nil => simp_all
      | cons char later =>
        rw [chars, List.flatMap_cons, List.append_assoc] at first
        exact head?_escapeInLine char _ first
    have reads := lineText_of_rounds (rounds_basic text.toList rest)
    simp [printText, quotedText_of_single.1 single, reads, same]
  | literal =>
    obtain ⟨plain, unquoted, within⟩ := of_formFor_literal form
    have single : (text.toList ++ '\x27' :: rest).take 2 ≠ ['\x27', '\x27'] := by
      rw [ne_eq, take_two_iff]
      intro ⟨first, second⟩
      cases chars : text.toList <;> simp_all
    have visible : ∀ char ∈ text.toList, isVisible char = true := by
      intro char member
      exact isVisible_of_plain (plain char member) fun same => within (same ▸ member)
    have reads := lineText_of_rounds (rounds_literal visible unquoted rest)
    simp [printText, quotedText_of_single.2 single, reads, same]
  | basicLines =>
    have reads := linesText_of_rounds (rounds_basicLines ends (Nat.zero_le 2) text.toList)
      fun within => afterNewline?_escapeLines within _
    simp [printText, quotedText, reads, same]
  | literalLines =>
    obtain ⟨plain, untripled⟩ := of_formFor_literalLines form
    have visible : ∀ char ∈ text.toList, char ≠ '\n' → isVisible char = true :=
      fun char member within => isVisible_of_plain (plain char member) within
    have unbroken (within : '\n' ∉ text.toList) :
        afterNewline? (text.toList ++ '\x27' :: '\x27' :: '\x27' :: rest) = none := by
      cases chars : text.toList with
      | nil => rfl
      | cons char later =>
        have member : char ∈ text.toList := by simp [chars]
        exact afterNewline?_of_isVisible (visible char member fun same => within (same ▸ member)) _
    have reads := linesText_of_rounds (rounds_literalLines visible untripled ends') unbroken
    simp [printText, quotedText, reads, same]

end ComputerRoom.Toml
