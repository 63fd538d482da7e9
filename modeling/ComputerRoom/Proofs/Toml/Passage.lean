import ComputerRoom.Proofs.Toml.SteadyValue
import ComputerRoom.Toml.Document

/-!
Passages: texts that read as statements on their own, and read so also in front of others.
-/

namespace ComputerRoom.Toml

section Rounds

/-- A header is read up to its closing bracket. -/
theorem header_steady : IsSteady header := by
  intro text found tail reads
  unfold header at reads
  -- Two brackets name an array of tables and one a table; each is closed behind its path.
  split at reads
  · rename_i rest
    obtain ⟨⟨path, last⟩, named, reads⟩ := Option.bind_eq_some_iff.mp reads
    obtain ⟨inner, closed, reads⟩ := Option.bind_eq_some_iff.mp reads
    obtain ⟨outer, closed', same⟩ := Option.bind_eq_some_iff.mp reads
    obtain rfl := Option.some.inj same
    have path' := keyPath_steady tail named
    simp only [leaving] at path'
    simp [header, path', after?_line, closed, closed', leaving]
  · rename_i single
    obtain ⟨⟨path, last⟩, named, reads⟩ := Option.bind_eq_some_iff.mp reads
    obtain ⟨behind, closed, same⟩ := Option.bind_eq_some_iff.mp reads
    obtain rfl := Option.some.inj same
    have path' := keyPath_steady tail named
    simp only [leaving] at path'
    have still : ∀ rest, text ++ '\n' :: tail = '[' :: rest → False :=
      ne_word tail ['['] (by decide) single
    simp [header, path', after?_line, closed, leaving]

/-- A comment ends with its line. -/
theorem skipComment_line (text tail : List Char) :
    skipComment (text ++ '\n' :: tail) = skipComment text ++ '\n' :: tail := by
  cases text with
  | nil => rfl
  | cons first rest =>
    by_cases comment : first = '#'
    · subst comment
      exact dropWhile_line rest tail rfl
    · simp [skipComment, comment]

/-- A line that ends goes over into what follows it, which may be the text behind its end. -/
theorem afterLine?_more {text rest : List Char} (tail : List Char)
    (ended : afterLine? text = some rest) :
    afterLine? (text ++ '\n' :: tail) = some (rest ++ '\n' :: tail) ∨
      rest = [] ∧ afterLine? (text ++ '\n' :: tail) = some tail := by
  unfold afterLine? at ended ⊢
  rw [skipSpaces_line, skipComment_line]
  -- A line that ends with the text is ended by the line feed; any other ends where it did.
  split at ended
  · rename_i nothing
    obtain rfl := Option.some.inj ended
    exact .inr ⟨rfl, by simp [nothing, afterNewline?]⟩
  · rename_i something
    have inside : ¬IsLineEnd (skipComment (skipSpaces text)) := by
      rintro (nothing | alone)
      · exact something nothing
      · rw [alone] at ended
        contradiction
    left
    split
    · simp_all
    · rw [afterNewline?_line tail inside, ended, Option.map_some]

/-- What takes the rest of its line takes it also with more lines behind it. -/
theorem bind_afterLine? {text rest : List Char} {stated item : Option Statement} (tail : List Char)
    (takes : ((afterLine? text).bind fun last => some (Round.item stated last)) =
      some (.item item rest)) :
    ((afterLine? (text ++ '\n' :: tail)).bind fun last => some (Round.item stated last)) =
        some (.item item (rest ++ '\n' :: tail)) ∨
      rest = [] ∧ ((afterLine? (text ++ '\n' :: tail)).bind fun last =>
        some (Round.item stated last)) = some (.item item tail) := by
  obtain ⟨last, ended, same⟩ := Option.bind_eq_some_iff.mp takes
  obtain ⟨rfl, rfl⟩ := Round.item.inj (Option.some.inj same)
  rcases afterLine?_more tail ended with still | ⟨rfl, goesOn⟩
  · exact .inl (by rw [still, Option.bind_some])
  · exact .inr ⟨rfl, by rw [goesOn, Option.bind_some]⟩

/-- The last round of a text ends its line, where more lines follow. -/
theorem statementRound_stop {text rest : List Char} (tail : List Char)
    (stops : statementRound text = some (.stop rest)) :
    rest = [] ∧ statementRound (text ++ '\n' :: tail) = some (.item none tail) := by
  unfold statementRound at stops ⊢
  rw [skipSpaces_line]
  -- The rounds only stop where nothing is left, as any line that is read is an item.
  split at stops
  · rename_i nothing
    obtain rfl := Round.stop.inj (Option.some.inj stops)
    exact ⟨rfl, by rw [nothing]; rfl⟩
  · obtain ⟨_, _, stops⟩ := Option.bind_eq_some_iff.mp stops
    obtain ⟨_, _, same⟩ := Option.bind_eq_some_iff.mp stops
    simp at same
  · split at stops
    · obtain ⟨_, _, same⟩ := Option.bind_eq_some_iff.mp stops
      simp at same
    · obtain ⟨_, _, stops⟩ := Option.bind_eq_some_iff.mp stops
      obtain ⟨_, _, same⟩ := Option.bind_eq_some_iff.mp stops
      simp at same

/-- A statement is read on its lines, and may be followed by the text behind them. -/
theorem statementRound_item {text rest : List Char} {item : Option Statement} (tail : List Char)
    (takes : statementRound text = some (.item item rest)) :
    statementRound (text ++ '\n' :: tail) = some (.item item (rest ++ '\n' :: tail)) ∨
      rest = [] ∧ statementRound (text ++ '\n' :: tail) = some (.item item tail) := by
  unfold statementRound at takes ⊢
  rw [skipSpaces_line]
  -- A header, an idle line and an entry are each read on the line, which is then passed.
  split at takes
  · simp at takes
  · rename_i behind opened
    obtain ⟨⟨statement, last⟩, named, takes⟩ := Option.bind_eq_some_iff.mp takes
    have statement' := header_steady tail named
    simp only [leaving] at statement'
    simpa [opened, statement'] using bind_afterLine? tail takes
  · rename_i char behind unopened starts
    rw [starts, List.cons_append]
    split at takes
    · rename_i idle
      simpa [idle] using bind_afterLine? tail takes
    · rename_i busy
      obtain ⟨⟨⟨path, node⟩, last⟩, held, takes⟩ := Option.bind_eq_some_iff.mp takes
      have entry' := keyValue_steady (value_steady _) tail held
      simp only [leaving, List.cons_append] at entry'
      simpa [busy, documentValue, entry'] using bind_afterLine? tail takes

end Rounds

/-- The rounds of a text go over into those of the lines behind it. -/
theorem roundsWithin_append {limit limit' : Nat} {text tail rest last : List Char}
    {items later : List (Option Statement)}
    (reads : roundsWithin statementRound limit text = some (items, rest))
    (onward : roundsWithin statementRound limit' tail = some (later, last)) :
    ∃ before, before.filterMap id = items.filterMap id ∧
      roundsWithin statementRound (limit + limit') (text ++ '\n' :: tail) =
        some (before ++ later, last) := by
  -- The line feed between the two ends a line of the first, or is an empty line after it.
  induction limit generalizing text items with
  | zero => contradiction
  | succ limit ih =>
    rw [Nat.add_right_comm]
    have direct := roundsWithin_mono onward (Nat.le_add_left limit' limit)
    obtain ⟨stops, rfl⟩ | ⟨item, next, others, takes, rounds, rfl⟩ := roundsWithin_cases reads
    · obtain ⟨_, goesOn⟩ := statementRound_stop tail stops
      exact ⟨[none], rfl, roundsWithin_item goesOn direct⟩
    · rcases statementRound_item tail takes with still | ⟨rfl, goesOn⟩
      · obtain ⟨before, same, reads⟩ := ih rounds
        refine ⟨item :: before, ?_, roundsWithin_item still reads⟩
        rw [List.filterMap_cons, List.filterMap_cons, same]
      · -- The text is at its end, so nothing more is stated in it.
        obtain rfl : others = [] := by
          cases limit with
          | zero => contradiction
          | succ limit =>
            obtain ⟨_, rfl⟩ | ⟨_, _, _, takes, _⟩ := roundsWithin_cases rounds
            · rfl
            · simp [statementRound, skipSpaces] at takes
        exact ⟨[item], rfl, roundsWithin_item goesOn direct⟩

/-- Whether the rounds of a text come to an end, and what they state together. -/
def States (text : List Char) (stated : List Statement) : Prop :=
  ∃ items rest, repeated statementRound text = some (items, rest) ∧ items.filterMap id = stated

namespace States

variable {text tail : List Char} {stated later : List Statement}

/-- A text states what its lines do, and then what the lines behind them do. -/
theorem append (states : States text stated) (onward : States tail later) :
    States (text ++ '\n' :: tail) (stated ++ later) := by
  obtain ⟨items, rest, reads, rfl⟩ := states
  obtain ⟨others, last, reads', rfl⟩ := onward
  -- The limits of the two are together that of the whole.
  obtain ⟨before, same, rounds⟩ := roundsWithin_append reads reads'
  have limit : text.length + 1 + (tail.length + 1) = (text ++ '\n' :: tail).length + 1 := by
    rw [List.length_append, List.length_cons]
    omega
  rw [limit] at rounds
  exact ⟨before ++ others, last, rounds, by rw [List.filterMap_append, same]⟩

/-- A statement on its line comes before those on the lines behind it. -/
theorem cons {line : List Char} {statement : Statement} (something : line ≠ [])
    (takes : statementRound (line ++ tail) = some (.item (some statement) tail))
    (onward : States tail later) : States (line ++ tail) (statement :: later) := by
  obtain ⟨others, last, reads, rfl⟩ := onward
  have longer : tail.length + 1 ≤ (line ++ tail).length := by
    have := List.length_pos_iff.mpr something
    rw [List.length_append]
    omega
  exact ⟨some statement :: others, last, roundsWithin_item takes (roundsWithin_mono reads longer),
    rfl⟩

/-- A byte order mark is no statement. -/
theorem unmarked (states : States text stated) : text.head? ≠ some '\ufeff' := by
  intro marked
  obtain ⟨rest, rfl⟩ := List.head?_eq_some_iff.mp marked
  obtain ⟨items, last, reads, _⟩ := states
  have unquoted : simpleKey ('\ufeff' :: rest) = none := rfl
  have refused : statementRound ('\ufeff' :: rest) = none := by
    simp [statementRound, skipSpaces, isSpace, keyValue, keyPath, unquoted]
  simp [repeated, roundsWithin, refused] at reads

/-- The statements of a text are what its rounds state. -/
theorem statements? (states : States text stated) : statements? text = some stated := by
  have plain := states.unmarked
  obtain ⟨items, last, reads, rfl⟩ := states
  simp [Toml.statements?, plain, reads]

/-- A document is what the statements of its text make. -/
theorem document? (states : States text stated) : document? (String.ofList text) =
    (stated.foldlM Assembly.apply .start).map fun assembly =>
      .record (Node.entriesToData assembly.root) := by
  rw [Toml.document?, String.toList_ofList, states.statements?]
  exact Option.map_eq_bind.symm

/-- A text without a byte order mark states what its statements are. -/
theorem of_statements? (unmarked : text.head? ≠ some '\ufeff')
    (reads : Toml.statements? text = some stated) : States text stated := by
  have plain : (text.head? == some '\ufeff') = false := by simpa using unmarked
  rw [Toml.statements?, plain] at reads
  obtain ⟨⟨items, rest⟩, rounds, same⟩ := Option.map_eq_some_iff.mp reads
  exact ⟨items, rest, rounds, same⟩

end States

/-- A text that reads as statements on its own, and what they are. -/
structure Passage where
  text : String
  stated : List Statement
  unmarked : text.toList.head? ≠ some '\ufeff'
  reads : statements? text.toList = some stated

/-- A passage states the same in front of other lines. -/
theorem Passage.states (passage : Passage) : States passage.text.toList passage.stated :=
  .of_statements? passage.unmarked passage.reads

end ComputerRoom.Toml
