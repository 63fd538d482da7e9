import ComputerRoom.Proofs.Toml.Steady

/-! Keys and values are read up to their own end, whatever lines follow them. -/

namespace ComputerRoom.Toml

section Keys

/-- The characters at the front of a line are the same with more text behind it. -/
theorem takeWhile_line {takes : Char → Bool} (within : takes '\n' = false)
    (text tail : List Char) : (text ++ '\n' :: tail).takeWhile takes = text.takeWhile takes := by
  induction text with
  | nil => simp [within]
  | cons first rest ih => cases taken : takes first <;> simp [taken, ih]

/-- A key is read on its line. -/
theorem simpleKey_steady : IsSteady simpleKey := by
  intro text found tail reads
  unfold simpleKey at reads
  split at reads
  · contradiction
  · rename_i first rest
    -- A bare key ends before the line feed at the latest, and another is within its quotes.
    split at reads
    · rename_i bare
      obtain rfl := Option.some.inj reads
      have front := takeWhile_line (show isBareKeyChar '\n' = false from rfl) (first :: rest) tail
      have back := dropWhile_line (first :: rest) tail (show isBareKeyChar '\n' = false from rfl)
      rw [List.cons_append] at front back
      simp [simpleKey, bare, front, back, leaving]
    · rename_i quoted
      have same := quotedKey_steady tail reads
      simpa [simpleKey, quoted] using same

/-- A key after a dot is read on its line. -/
theorem dottedRound_steady : IsSteadyRound dottedRound := by
  intro text found tail reads _
  unfold dottedRound at reads ⊢
  rw [skipSpaces_line]
  split at reads
  · rename_i rest dotted
    obtain ⟨⟨key, last⟩, named, rfl⟩ := Option.map_eq_some_iff.mp reads
    simp [dotted, skipSpaces_line, simpleKey_steady tail named, leaving, Round.leaving]
  · rename_i undotted
    obtain rfl := Option.some.inj reads
    split
    · rename_i rest found
      exact absurd found (ne_word tail ['.'] (by decide) undotted rest)
    · rfl

/-- A key with dots is read on its line. -/
theorem keyPath_steady : IsSteady keyPath := by
  intro text found tail reads
  obtain ⟨⟨first, rest⟩, named, reads⟩ := Option.bind_eq_some_iff.mp reads
  obtain ⟨⟨others, last⟩, rounds, reads⟩ := Option.bind_eq_some_iff.mp reads
  obtain ⟨short, same⟩ := Option.ite_none_right_eq_some.mp reads
  obtain rfl := Option.some.inj same
  have first' := simpleKey_steady tail named
  have others' := repeated_steady dottedRound_steady tail rounds
  simp only [leaving] at first' others'
  simp [keyPath, skipSpaces_line, first', others', short, leaving]

end Keys

section Values

variable {read : Reader Node}

/-- A key and its value are read where the value is. -/
theorem keyValue_steady (steady : IsSteady read) : IsSteady (keyValue read) := by
  intro text found tail reads
  obtain ⟨⟨path, rest⟩, named, reads⟩ := Option.bind_eq_some_iff.mp reads
  obtain ⟨behind, equals, reads⟩ := Option.bind_eq_some_iff.mp reads
  obtain ⟨⟨node, last⟩, held, same⟩ := Option.bind_eq_some_iff.mp reads
  obtain rfl := Option.some.inj same
  have path' := keyPath_steady tail named
  have node' := steady tail held
  simp only [leaving] at path' node'
  simp [keyValue, path', after?_line, equals, skipSpaces_line, node', leaving]

/-- A gap that ends before a character ends there also with more lines behind it. -/
theorem skipGapsFrom_line {text : List Char} (tail : List Char) (inComment : Bool)
    (inside : ¬IsLineEnd (skipGapsFrom inComment text)) :
    skipGapsFrom inComment (text ++ '\n' :: tail) =
      skipGapsFrom inComment text ++ '\n' :: tail := by
  fun_induction skipGapsFrom inComment text with
  | case1 => exact absurd (.inl rfl) inside
  | case2 | case3 | case5 => simp_all [skipGapsFrom]
  | case4 inComment char rest =>
    cases rest with
    | nil => simp_all
    | cons second later => simp_all [skipGapsFrom]
  | case6 inComment char rest uncommented unspaced unended unmarked =>
    -- A carriage return is kept only before a character that is there already.
    have still : ¬(char == '\r' && (rest ++ '\n' :: tail).head? == some '\n') = true := by
      cases rest with
      | nil =>
        have other : char ≠ '\r' := by
          rintro rfl
          exact inside (.inr rfl)
        simp [other]
      | cons second later => simpa using unended
    rw [List.cons_append, skipGapsFrom, if_neg uncommented, if_neg unspaced, if_neg still,
      if_neg unmarked]

/-- A gap is the same with more lines behind it, if a character follows it. -/
theorem skipGaps_line {text : List Char} (tail : List Char) (inside : ¬IsLineEnd (skipGaps text)) :
    skipGaps (text ++ '\n' :: tail) = skipGaps text ++ '\n' :: tail :=
  skipGapsFrom_line tail false inside

/-- An item of an array is read up to the comma or the bracket behind it. -/
theorem arrayRound_steady (steady : IsSteady read)
    (goesOn : ∀ text, IsLineEnd text → read text = none) : IsSteadyRound (arrayRound read) := by
  intro text found tail reads _
  -- The array cannot end with the line, before its closing bracket.
  have inside : ¬IsLineEnd (skipGaps text) := by
    intro ended
    unfold arrayRound at reads
    rcases ended with nothing | alone
    · simp [nothing, goesOn [] (.inl rfl)] at reads
    · simp [alone, goesOn ['\r'] (.inr rfl)] at reads
  unfold arrayRound at reads ⊢
  rw [skipGaps_line tail inside]
  split at reads
  · rename_i rest closed
    obtain rfl := Option.some.inj reads
    simp [closed, Round.leaving]
  · rename_i unclosed
    obtain ⟨⟨node, rest⟩, held, reads⟩ := Option.bind_eq_some_iff.mp reads
    have node' := steady tail held
    simp only [leaving] at node'
    have still : ∀ last, skipGaps text ++ '\n' :: tail = ']' :: last → False :=
      ne_word tail [']'] (by decide) unclosed
    -- One of the two marks is behind the item, and the gap in front of it ends there.
    dsimp only at reads
    split at reads
    · rename_i next comma
      obtain rfl := Option.some.inj reads
      have gap := skipGaps_line tail (by simp [IsLineEnd, comma] : ¬IsLineEnd (skipGaps rest))
      simp [node', gap, comma, Round.leaving]
    · rename_i last closed
      obtain rfl := Option.some.inj reads
      have gap := skipGaps_line tail (by simp [IsLineEnd, closed] : ¬IsLineEnd (skipGaps rest))
      simp [node', gap, closed, Round.leaving]
    · contradiction

/-- An entry between braces is read up to the comma or the brace behind it. -/
theorem bracesRound_steady (steady : IsSteady read) : IsSteadyRound (bracesRound read) := by
  intro text found tail reads _
  unfold bracesRound at reads ⊢
  rw [skipSpaces_line]
  split at reads
  · rename_i rest closed
    obtain rfl := Option.some.inj reads
    simp [closed, Round.leaving]
  · rename_i unclosed
    obtain ⟨⟨entry, rest⟩, held, reads⟩ := Option.bind_eq_some_iff.mp reads
    have entry' := keyValue_steady steady tail held
    simp only [leaving] at entry'
    have still : ∀ last, skipSpaces text ++ '\n' :: tail = '\x7d' :: last → False :=
      ne_word tail ['\x7d'] (by decide) unclosed
    dsimp only at reads
    split at reads
    · rename_i next comma
      obtain ⟨more, same⟩ := Option.ite_none_left_eq_some.mp reads
      obtain rfl := Option.some.inj same
      -- The end of the line is not the brace that may not follow a comma.
      have goesOn : (skipSpaces next).head?.getD '\n' ≠ '\x7d' := by
        cases behind : skipSpaces next with
        | nil => simp
        | cons first later => simpa [behind] using more
      simp [entry', skipSpaces_line, comma, goesOn, Round.leaving]
    · rename_i last closed
      obtain rfl := Option.some.inj reads
      simp [entry', skipSpaces_line, closed, Round.leaving]
    · contradiction

/-- A number, a date or a time is read on its line. -/
theorem numberOrMoment_steady : IsSteady numberOrMoment :=
  isSteady_of_leaving numberOrMoment_leaving

/-- No value begins where a line ends. -/
theorem value_lineEnd (depth : Nat) (text : List Char) (ended : IsLineEnd text) :
    value depth text = none := by
  rcases ended with rfl | rfl
  · simp [value]
  · have nothing : numberOrMoment ['\r'] = none := by decide +kernel
    simp [value, nothing]

/-- A value is read up to its own end, if those that may lie inside it are. -/
theorem value_steady_of_inside {depth : Nat}
    (inside : ∀ inner, depth = inner + 1 → IsSteady (value inner)) : IsSteady (value depth) := by
  intro text found tail reads
  unfold value at reads
  split at reads
  · -- An array.
    cases depth with
    | zero => contradiction
    | succ inner =>
      obtain ⟨⟨items, last⟩, rounds, rfl⟩ := Option.map_eq_some_iff.mp reads
      have items' := repeated_steady (arrayRound_steady (inside inner rfl) (value_lineEnd inner))
        tail rounds
      simp only [leaving] at items'
      simp [value, items', leaving]
  · -- A table between braces.
    cases depth with
    | zero => contradiction
    | succ inner =>
      obtain ⟨⟨assignments, last⟩, rounds, reads⟩ := Option.bind_eq_some_iff.mp reads
      obtain ⟨table, built, same⟩ := Option.bind_eq_some_iff.mp reads
      obtain rfl := Option.some.inj same
      have assignments' := repeated_steady (bracesRound_steady (inside inner rfl)) tail rounds
      simp only [leaving] at assignments'
      simp [value, assignments', built, leaving]
  · obtain rfl := Option.some.inj reads
    simp [value, leaving]
  · obtain rfl := Option.some.inj reads
    simp [value, leaving]
  · rename_i char rest unlisted unbraced untrue unfalse
    -- Neither word begins here, nor does one with the end of the line in it.
    have untrue' : ∀ last, char = 't' → rest ++ '\n' :: tail = 'r' :: 'u' :: 'e' :: last →
        False := fun last first =>
      ne_word tail ['r', 'u', 'e'] (by decide) (fun last => untrue last first) last
    have unfalse' : ∀ last, char = 'f' →
        rest ++ '\n' :: tail = 'a' :: 'l' :: 's' :: 'e' :: last → False := fun last first =>
      ne_word tail ['a', 'l', 's', 'e'] (by decide) (fun last => unfalse last first) last
    have chosen : value depth (char :: rest ++ '\n' :: tail) =
        if char == '"' || char == '\x27' then
          (quotedText (char :: rest ++ '\n' :: tail)).map fun found => (.text found.1, found.2)
        else numberOrMoment (char :: rest ++ '\n' :: tail) := by
      rw [List.cons_append, value]
      all_goals assumption
    rw [chosen]
    split at reads
    · rename_i quoted
      obtain ⟨⟨text, last⟩, held, rfl⟩ := Option.map_eq_some_iff.mp reads
      rw [if_pos quoted, quotedText_steady tail held]
      rfl
    · rename_i unquoted
      rw [if_neg unquoted, numberOrMoment_steady tail reads]
  · contradiction

/-- A value is read up to its own end, however deep others lie inside it. -/
theorem value_steady (depth : Nat) : IsSteady (value depth) := by
  -- Whatever lies inside a value lies a level lower, down to values that hold no others.
  induction depth with
  | zero => exact value_steady_of_inside nofun
  | succ depth ih =>
    refine value_steady_of_inside fun inner same => ?_
    obtain rfl := Nat.succ.inj same
    exact ih

end Values

end ComputerRoom.Toml
