import ComputerRoom.Proofs.Toml.LineEnd
import ComputerRoom.Proofs.Toml.Rounds

/-!
Readers that take the same from a text where more lines follow it: reading again and again, and
texts between quotes.
-/

namespace ComputerRoom.Toml

variable {α : Type}

/-- What a round comes to, where the end of the line and more text follow. -/
def Round.leaving (tail : List Char) : Round α → Round α
  | .item value rest => .item value (rest ++ '\n' :: tail)
  | .stop rest => .stop (rest ++ '\n' :: tail)

/-- Whether what a reader takes from a text is the same where more lines follow. -/
def IsSteady (read : Reader α) : Prop :=
  ∀ ⦃text : List Char⦄ ⦃found : α × List Char⦄ (tail : List Char), read text = some found →
    read (text ++ '\n' :: tail) = some (leaving tail found)

/-- Whether a round comes to the same where more lines follow, if there is a round after it. -/
def IsSteadyRound (round : List Char → Option (Round α)) : Prop :=
  ∀ ⦃text : List Char⦄ ⦃found : Round α⦄ (tail : List Char), round text = some found →
    (∀ value next, found = .item value next → (round next).isSome) →
      round (text ++ '\n' :: tail) = some (found.leaving tail)

/-- A reader is steady if the end of the line decides nothing. -/
theorem isSteady_of_leaving {read : Reader α}
    (same : ∀ text tail, read (text ++ '\n' :: tail) = (read text).map (leaving tail)) :
    IsSteady read := by
  intro text found tail reads
  rw [same, reads, Option.map_some]

section Repeated

variable {round : List Char → Option (Round α)}

/-- Steady rounds come to the same together, whatever limit was enough for them. -/
theorem roundsWithin_steady (steady : IsSteadyRound round) (limit : Nat) :
    IsSteady (roundsWithin round limit) := by
  -- Each round but the last one is followed by another, which the smaller limit still allows.
  induction limit with
  | zero =>
    intro text found tail reads
    contradiction
  | succ limit ih =>
    rintro text ⟨values, rest⟩ tail reads
    obtain ⟨stops, rfl⟩ | ⟨value, next, later, takes, rounds, rfl⟩ := roundsWithin_cases reads
    · simp [roundsWithin, steady tail stops (by rintro _ _ ⟨⟩), Round.leaving, leaving]
    · have goesOn : (round next).isSome := by
        cases limit with
        | zero => contradiction
        | succ limit => rcases roundsWithin_cases rounds with ⟨again, _⟩ | ⟨_, _, _, again, _⟩ <;>
            simp [again]
      have first := steady tail takes (by rintro _ _ ⟨rfl, rfl⟩; exact goesOn)
      exact roundsWithin_item first (ih tail rounds)

/-- Reading steady rounds again and again is steady. -/
theorem repeated_steady (steady : IsSteadyRound round) : IsSteady (repeated round) := by
  intro text found tail reads
  refine roundsWithin_mono (roundsWithin_steady steady _ tail reads) ?_
  rw [List.length_append]
  omega

end Repeated

section Texts

/-- The digits of a code are on one line. -/
theorem coded_steady (count : Nat) : IsSteady fun rest : List Char =>
    if rest.length < count then none
    else (codedChar? (rest.take count)).map (·, rest.drop count) := by
  intro rest found tail reads
  obtain ⟨long, reads⟩ := Option.ite_none_left_eq_some.mp reads
  obtain ⟨char, coded, rfl⟩ := Option.map_eq_some_iff.mp reads
  have inside : count ≤ rest.length := Nat.not_lt.mp long
  dsimp only
  rw [if_neg (by rw [List.length_append]; omega), List.take_append_of_le_length inside,
    List.drop_append_of_le_length inside, coded]
  rfl

/-- An escape is read on its line. -/
theorem escapedChar_steady : IsSteady escapedChar := by
  intro text found tail reads
  unfold escapedChar at reads
  split at reads
  case h_8 rest => exact coded_steady 4 tail reads
  case h_9 rest => exact coded_steady 8 tail reads
  case h_10 => contradiction
  all_goals
    obtain rfl := Option.some.inj reads
    rfl

/-- A character of a text on one line is read on that line. -/
theorem basicRound_steady : IsSteadyRound basicRound := by
  intro text found tail reads _
  unfold basicRound at reads
  split at reads
  · contradiction
  · obtain rfl := Option.some.inj reads
    rfl
  · rename_i rest
    obtain ⟨⟨char, last⟩, escaped, rfl⟩ := Option.map_eq_some_iff.mp reads
    simp [basicRound, escapedChar_steady tail escaped, leaving, Round.leaving]
  · rename_i char rest unquoted unescaped
    obtain ⟨visible, same⟩ := Option.ite_none_right_eq_some.mp reads
    obtain rfl := Option.some.inj same
    simp_all [basicRound, Round.leaving]

/-- A character of a literal text on one line is read on that line. -/
theorem literalRound_steady : IsSteadyRound literalRound := by
  intro text found tail reads _
  unfold literalRound at reads
  split at reads
  · contradiction
  · obtain rfl := Option.some.inj reads
    rfl
  · rename_i char rest unquoted
    obtain ⟨visible, same⟩ := Option.ite_none_right_eq_some.mp reads
    obtain rfl := Option.some.inj same
    simp_all [literalRound, Round.leaving]

/-- Whether a line feed behind a text would end a line where the text begins. -/
def IsLineEnd (text : List Char) : Prop :=
  text = [] ∨ text = ['\r']

/-- Whether a text begins with two quotes is seen on its line. -/
theorem twoQuotes_line {quote : Char} (within : quote ≠ '\n') (text tail : List Char) :
    (after? quote (text ++ '\n' :: tail) >>= after? quote) =
      (after? quote text >>= after? quote).map (· ++ '\n' :: tail) := by
  rw [after?_line text tail within]
  cases after? quote text with
  | none => rfl
  | some rest => exact after?_line rest tail within

/-- What a quote between triple quotes means is seen on its line. -/
theorem quoteRound_steady {quote : Char} (within : quote ≠ '\n') {rest : List Char}
    {found : Round (List Char)} (tail : List Char) (reads : quoteRound quote rest = some found) :
    quoteRound quote (rest ++ '\n' :: tail) = some (found.leaving tail) := by
  unfold quoteRound at reads ⊢
  rw [twoQuotes_line within]
  -- The quotes behind the first one are counted, and the line feed is none of them.
  split at reads
  · rename_i alone
    obtain rfl := Option.some.inj reads
    simp [alone, Round.leaving]
  · rename_i last three
    rw [three]
    simp only [Option.map_some, after?_line last tail within]
    split at reads
    · rename_i ended
      obtain rfl := Option.some.inj reads
      simp [ended, Round.leaving]
    · rename_i more four
      obtain ⟨few, same⟩ := Option.ite_none_left_eq_some.mp reads
      obtain rfl := Option.some.inj same
      simp only [four, Option.map_some, twoQuotes_line within, Option.isSome_map, if_neg few]
      rfl

/-- A line end at the front is the same with more lines behind it, if the text goes on there. -/
theorem afterNewline?_line {text : List Char} (tail : List Char) (inside : ¬IsLineEnd text) :
    afterNewline? (text ++ '\n' :: tail) = (afterNewline? text).map (· ++ '\n' :: tail) := by
  match text with
  | [] => exact absurd (.inl rfl) inside
  | [first] =>
    -- A carriage return alone would make a line end with the line feed behind it.
    have other : first ≠ '\r' := by
      rintro rfl
      exact inside (.inr rfl)
    by_cases feed : first = '\n' <;> simp [afterNewline?, feed, other]
  | first :: second :: rest =>
    by_cases feed : first = '\n'
    · simp [afterNewline?, feed]
    · by_cases both : first = '\r' ∧ second = '\n'
      · simp [afterNewline?, both]
      · simp_all [afterNewline?]

/-- A character that is no quote is read on its line, and a line end as well. -/
theorem plainRound_steady {char : Char} {rest : List Char} {found : Round (List Char)}
    (tail : List Char)
    (reads : (if isVisible char then some (.item [char] rest)
      else (afterNewline? (char :: rest)).map (.item ['\n'])) = some found) :
    (if isVisible char then some (.item [char] (rest ++ '\n' :: tail))
      else (afterNewline? (char :: (rest ++ '\n' :: tail))).map (.item ['\n'])) =
        some (found.leaving tail) := by
  -- A visible character stands for itself, and any other begins a line end within the text.
  split at reads
  · rename_i visible
    obtain rfl := Option.some.inj reads
    rw [if_pos visible]
    rfl
  · rename_i control
    obtain ⟨next, ended, rfl⟩ := Option.map_eq_some_iff.mp reads
    have inside : ¬IsLineEnd (char :: rest) := by
      rintro (nothing | alone)
      · contradiction
      · rw [alone] at ended
        contradiction
    have again := afterNewline?_line tail inside
    rw [List.cons_append] at again
    rw [if_neg control, again, ended]
    rfl

/-- A character of a literal text between triple quotes is read on its line. -/
theorem literalLinesRound_steady : IsSteadyRound literalLinesRound := by
  intro text found tail reads _
  unfold literalLinesRound at reads
  split at reads
  · contradiction
  · exact quoteRound_steady (by decide) tail reads
  · rename_i char rest unquoted
    have same := plainRound_steady tail reads
    simpa [literalLinesRound, unquoted] using same

/-- White space that ends before a character ends there also with more lines behind it. -/
theorem skipWhite_line {text : List Char} (tail : List Char)
    (inside : ¬IsLineEnd (skipWhite text)) :
    skipWhite (text ++ '\n' :: tail) = skipWhite text ++ '\n' :: tail := by
  fun_induction skipWhite text with
  | case1 => exact absurd (.inl rfl) inside
  | case2 char rest blank ih => simp [skipWhite, blank, ih inside]
  | case3 char rest unspaced lineEnd ih =>
    cases rest with
    | nil => simp at lineEnd
    | cons second later =>
      have again := ih inside
      simp_all [skipWhite]
  | case4 char rest unspaced unended =>
    -- A carriage return is kept only before a character that is there already.
    cases rest with
    | nil =>
      have other : char ≠ '\r' := by
        rintro rfl
        exact inside (.inr rfl)
      simp [skipWhite, unspaced, other]
    | cons second later => simp_all [skipWhite]

/-- No escape begins with a blank, or is at the end of a line. -/
theorem escapedChar_eq_none {text : List Char} (ended : IsLineEnd (skipSpaces text)) :
    escapedChar text = none := by
  -- The text is empty, or begins with a blank or a line end, and none of these is escaped.
  cases text with
  | nil => rfl
  | cons first rest =>
    by_cases space : first = ' '
    · subst space
      rfl
    · by_cases tab : first = '\t'
      · subst tab
        rfl
      · have solid : skipSpaces (first :: rest) = first :: rest := by
          simp [skipSpaces, isSpace, space, tab]
        obtain nothing | alone := solid ▸ ended
        · contradiction
        · rw [alone]
          rfl

/-- A character of a text between triple quotes is read on its line, with the gap behind it. -/
theorem basicLinesRound_steady : IsSteadyRound basicLinesRound := by
  intro text found tail reads onward
  unfold basicLinesRound at reads
  split at reads
  · contradiction
  · exact quoteRound_steady (by decide) tail reads
  · rename_i rest
    -- An escape would have to follow, if the line ended here.
    have inside : ¬IsLineEnd (skipSpaces rest) := by
      intro ended
      rw [escapedChar_eq_none ended] at reads
      rcases ended with nothing | alone
      · simp [nothing, afterNewline?] at reads
      · simp [alone, afterNewline?] at reads
    have joined := afterNewline?_line tail inside
    split at reads
    · rename_i next ended
      obtain rfl := Option.some.inj reads
      -- The text goes on behind the gap, since a round follows this one.
      have goesOn : ¬IsLineEnd (skipWhite next) := by
        have again := onward [] (skipWhite next) rfl
        rintro (nothing | alone)
        · simp [nothing, basicLinesRound] at again
        · simp [alone, basicLinesRound, isVisible, afterNewline?] at again
      simp [basicLinesRound, skipSpaces_line, joined, ended, skipWhite_line tail goesOn,
        Round.leaving]
    · rename_i alone
      obtain ⟨⟨char, last⟩, escaped, rfl⟩ := Option.map_eq_some_iff.mp reads
      simp [basicLinesRound, skipSpaces_line, joined, alone, escapedChar_steady tail escaped,
        leaving, Round.leaving]
  · rename_i char rest unquoted unescaped
    have same := plainRound_steady tail reads
    simpa [basicLinesRound, unquoted, unescaped] using same

/-- A text on one line is read on that line. -/
theorem lineText_steady {round : List Char → Option (Round Char)} (steady : IsSteadyRound round) :
    IsSteady (lineText round) := by
  intro text found tail reads
  obtain ⟨⟨chars, rest⟩, rounds, rfl⟩ := Option.map_eq_some_iff.mp reads
  simp [lineText, repeated_steady steady tail rounds, leaving]

/-- A text between triple quotes is read up to the last of them. -/
theorem linesText_steady {round : List Char → Option (Round (List Char))}
    (steady : IsSteadyRound round) (goesOn : ∀ text, IsLineEnd text → round text = none) :
    IsSteady (linesText round) := by
  intro text found tail reads
  obtain ⟨⟨parts, rest⟩, rounds, rfl⟩ := Option.map_eq_some_iff.mp reads
  -- The text cannot end before its first character.
  have inside : ¬IsLineEnd text := by
    intro ended
    have first : skipFirstNewline text = text := by
      rcases ended with rfl | rfl <;> rfl
    rw [first] at rounds
    simp [repeated, roundsWithin, goesOn text ended] at rounds
  have front : skipFirstNewline (text ++ '\n' :: tail) = skipFirstNewline text ++ '\n' :: tail := by
    unfold skipFirstNewline
    rw [afterNewline?_line tail inside]
    cases afterNewline? text <;> rfl
  simp [linesText, front, repeated_steady steady tail rounds, leaving]

/-- A text between quotes is read up to the last of them. -/
theorem quotedText_steady : IsSteady quotedText := by
  intro text found tail reads
  unfold quotedText at reads
  -- Three quotes open a text over lines and one a text on its line, for both kinds of quotes.
  split at reads
  · rename_i rest
    exact linesText_steady basicLinesRound_steady
      (by rintro _ (rfl | rfl) <;> rfl) tail reads
  · rename_i rest single
    have still : ∀ last, rest ++ '\n' :: tail = '"' :: '"' :: last → False :=
      ne_word tail ['"', '"'] (by decide) single
    simpa [quotedText, still] using lineText_steady basicRound_steady tail reads
  · rename_i rest
    exact linesText_steady literalLinesRound_steady
      (by rintro _ (rfl | rfl) <;> rfl) tail reads
  · rename_i rest single
    have still : ∀ last, rest ++ '\n' :: tail = '\x27' :: '\x27' :: last → False :=
      ne_word tail ['\x27', '\x27'] (by decide) single
    simpa [quotedText, still] using lineText_steady literalRound_steady tail reads
  · contradiction

/-- A key between quotes is read up to the second one. -/
theorem quotedKey_steady : IsSteady quotedKey := by
  intro text found tail reads
  unfold quotedKey at reads
  split at reads
  · exact lineText_steady basicRound_steady tail reads
  · exact lineText_steady literalRound_steady tail reads
  · contradiction

end Texts

end ComputerRoom.Toml
