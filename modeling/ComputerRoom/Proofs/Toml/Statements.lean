import ComputerRoom.Proofs.Toml.Value
import ComputerRoom.Toml.Document

/-! Sections that were written read back as the statements that they consist of. -/

namespace ComputerRoom

/-- Whether a text can be written as a key without quotes. -/
def IsBareKey (key : String) : Prop :=
  key.toList ≠ [] ∧ ∀ char ∈ key.toList, Toml.isBareKeyChar char = true

/-- The statement that gives a setting its value. -/
def Setting.statement (setting : String × Setting) : Toml.Statement :=
  .assign ⟨[], setting.1⟩ setting.2.toNode

namespace Section

/-- The header of a section and its settings, as they are stated. -/
def statements (part : Section) : List Toml.Statement :=
  .openTable ⟨[], part.name⟩ :: part.settings.map Setting.statement

/-- A section whose names need no quotes, and give no two settings of it the same key. -/
structure IsPlain (part : Section) : Prop where
  name : IsBareKey part.name
  keys : ∀ setting ∈ part.settings, IsBareKey setting.1
  distinct : (part.settings.map Prod.fst).Nodup

end Section

namespace Toml

/-- A key without quotes begins with a character that stands in such keys. -/
theorem exists_of_isBareKey {key : String} (bare : IsBareKey key) :
    ∃ first later, key.toList = first :: later ∧ isBareKeyChar first = true := by
  obtain ⟨first, later, written⟩ := List.exists_cons_of_ne_nil bare.1
  exact ⟨first, later, written, bare.2 first (by simp [written])⟩

/-- The characters of keys are no marks and no blanks. -/
theorem ne_of_isBareKeyChar {char : Char} (bare : isBareKeyChar char = true) (mark : Char)
    (other : isBareKeyChar mark = false) : char ≠ mark := by
  rintro rfl
  simp [bare] at other

/-- No key begins with a blank. -/
theorem isSpace_of_isBareKeyChar {char : Char} (bare : isBareKeyChar char = true) :
    isSpace char = false := by
  simp [isSpace, ne_of_isBareKeyChar bare ' ' rfl, ne_of_isBareKeyChar bare '\t' rfl]

/-- A key is read up to the first character that is not of it, and the blanks there. -/
theorem keyPath_bare {key : String} (bare : IsBareKey key) (mark : Char) {rest : List Char}
    (ends : isBareKeyChar mark = false) (undotted : (skipSpaces (mark :: rest)).head? ≠ some '.') :
    keyPath (key.toList ++ mark :: rest) = some (⟨[], key⟩, skipSpaces (mark :: rest)) := by
  -- The characters of the key are taken, and the first one that is not of it stops them.
  have simple : simpleKey (key.toList ++ mark :: rest) = some (key, mark :: rest) := by
    obtain ⟨first, later, written, starts⟩ := exists_of_isBareKey bare
    have front : (key.toList ++ mark :: rest).takeWhile isBareKeyChar = key.toList := by
      rw [List.takeWhile_append_of_pos bare.2, List.takeWhile_cons_of_neg (by simp [ends]),
        List.append_nil]
    have back : (key.toList ++ mark :: rest).dropWhile isBareKeyChar = mark :: rest := by
      rw [List.dropWhile_append_of_pos bare.2, List.dropWhile_cons_of_neg (by simp [ends])]
    have named := String.ofList_toList (s := key)
    rw [written] at front back named ⊢
    rw [List.cons_append] at front back ⊢
    simp [simpleKey, starts, front, back, named]
  -- No blank comes before the key, and no dot after it.
  have solid : skipSpaces (key.toList ++ mark :: rest) = key.toList ++ mark :: rest := by
    obtain ⟨first, later, written, starts⟩ := exists_of_isBareKey bare
    rw [written, List.cons_append, skipSpaces_cons (isSpace_of_isBareKeyChar starts)]
  have alone : dottedRound (mark :: rest) = some (.stop (skipSpaces (mark :: rest))) := by
    unfold dottedRound
    split
    · rename_i found
      simp [found] at undotted
    · rfl
  have others : repeated dottedRound (mark :: rest) = some ([], skipSpaces (mark :: rest)) :=
    (Rounds.stop alone).repeated_eq
  simp [keyPath, solid, simple, others, depthLimit, KeyPath.ofKeys]

/-- A header takes one round. -/
theorem statementRound_header {name : String} (bare : IsBareKey name) (rest : List Char) :
    statementRound ('[' :: (name.toList ++ ']' :: '\n' :: rest)) =
      some (.item (some (.openTable ⟨[], name⟩)) rest) := by
  have path : keyPath (name.toList ++ ']' :: '\n' :: rest) =
      some (⟨[], name⟩, ']' :: '\n' :: rest) :=
    keyPath_bare bare ']' rfl (by simp [skipSpaces, isSpace])
  -- A second bracket would make a row, but a key begins with none.
  have opened : header (name.toList ++ ']' :: '\n' :: rest) =
      some (.openTable ⟨[], name⟩, '\n' :: rest) := by
    obtain ⟨first, later, written, starts⟩ := exists_of_isBareKey bare
    rw [written, List.cons_append] at path ⊢
    unfold header
    split
    · rename_i found
      cases found
      contradiction
    · simp [path]
  have line : afterLine? ('\n' :: rest) = some rest := rfl
  have solid : skipSpaces ('[' :: (name.toList ++ ']' :: '\n' :: rest)) =
      '[' :: (name.toList ++ ']' :: '\n' :: rest) := rfl
  simp [statementRound, solid, opened, line]

/-- The value of a setting that was written does not begin with a blank. -/
theorem skipSpaces_printSetting {setting : Setting} {written : List Char}
    (printed : printSetting? setting = some written) (rest : List Char) :
    skipSpaces (written ++ '\n' :: rest) = written ++ '\n' :: rest := by
  -- Numbers begin with a digit, truth values with a letter, and lists with a bracket.
  cases setting with
  | integer number =>
    obtain ⟨fits, rfl⟩ : number < int64Bound ∧ Nat.toDigits 10 number = written := by
      simpa [printSetting?] using printed
    obtain ⟨first, later, digits, decimal⟩ := toDigits_eq_cons number
    have unspaced : isSpace first = false := by
      cases spaced : isSpace first with
      | false => rfl
      | true =>
        have blank : first = ' ' ∨ first = '\t' := by simpa [isSpace] using spaced
        rcases blank with rfl | rfl <;> contradiction
    rw [digits, List.cons_append, skipSpaces_cons unspaced]
  | boolean truth =>
    cases truth with
    | false =>
      obtain rfl : "false".toList = written := by simpa [printSetting?] using printed
      rfl
    | true =>
      obtain rfl : "true".toList = written := by simpa [printSetting?] using printed
      rfl
  | texts values =>
    obtain rfl : printTexts values = written := by simpa [printSetting?] using printed
    -- The first character depends on whether there are none, one or several.
    cases values with
    | nil => rfl
    | cons first others => cases others <;> rfl

/-- A setting takes one round. -/
theorem statementRound_printLine {setting : String × Setting} {line : List Char}
    (bare : IsBareKey setting.1) (printed : printLine? setting = some line) (rest : List Char) :
    statementRound (line ++ rest) = some (.item (some (Setting.statement setting)) rest) := by
  obtain ⟨key, held⟩ := setting
  obtain ⟨written, shown, rfl⟩ : ∃ written, printSetting? held = some written ∧
      key.toList ++ [' ', '=', ' '] ++ written ++ ['\n'] = line := by
    simpa [printLine?, Option.map_eq_some_iff] using printed
  have path : keyPath (key.toList ++ ' ' :: '=' :: ' ' :: (written ++ '\n' :: rest)) =
      some (⟨[], key⟩, '=' :: ' ' :: (written ++ '\n' :: rest)) :=
    keyPath_bare bare ' ' rfl (by simp [skipSpaces, isSpace])
  have blank : skipSpaces (' ' :: (written ++ '\n' :: rest)) = written ++ '\n' :: rest :=
    skipSpaces_printSetting shown rest
  have reads : documentValue (written ++ '\n' :: rest) = some (held.toNode, '\n' :: rest) :=
    value_printSetting shown 78 rest
  have ended : afterLine? ('\n' :: rest) = some rest := rfl
  have pair : keyValue documentValue
      (key.toList ++ ' ' :: '=' :: ' ' :: (written ++ '\n' :: rest)) =
      some ((⟨[], key⟩, held.toNode), '\n' :: rest) := by
    simp [keyValue, path, blank, reads]
  -- A character of a key opens no header and no comment, and ends no line.
  obtain ⟨first, later, named, starts⟩ := exists_of_isBareKey bare
  have unlike (mark : Char) (other : isBareKeyChar mark = false) : first ≠ mark :=
    ne_of_isBareKeyChar starts mark other
  simp only [List.append_assoc, List.cons_append, List.nil_append]
  rw [named, List.cons_append] at pair ⊢
  unfold statementRound
  rw [skipSpaces_cons (isSpace_of_isBareKeyChar starts)]
  simp [unlike '[' rfl, unlike '#' rfl, unlike '\n' rfl, unlike '\r' rfl, pair, ended,
    Setting.statement]

/-- Everything in a list that can be written was written. -/
theorem exists_of_mapM_cons {α β : Type} {write : α → Option β} {head : α} {tail : List α}
    {written : List β} (printed : (head :: tail).mapM write = some written) :
    ∃ first others, write head = some first ∧ tail.mapM write = some others ∧
      first :: others = written := by
  obtain ⟨first, shown, others, shown', rfl⟩ : ∃ first, write head = some first ∧
      ∃ others, tail.mapM write = some others ∧ first :: others = written := by
    simpa [List.mapM_cons, Option.bind_eq_some_iff] using printed
  exact ⟨first, others, shown, shown', rfl⟩

/-- A section is written as its header and the lines of its settings. -/
theorem exists_of_printSection? {part : Section} {written : List Char}
    (printed : printSection? part = some written) :
    ∃ lines, part.settings.mapM printLine? = some lines ∧
      '[' :: (part.name.toList ++ ']' :: '\n' :: lines.flatten) = written := by
  simpa [printSection?, Option.bind_eq_some_iff] using printed

variable {items : List (Option Statement)} {rest : List Char}

/-- The settings of a section take a round each. -/
theorem rounds_lines {settings : List (String × Setting)} {lines : List (List Char)}
    (bare : ∀ setting ∈ settings, IsBareKey setting.1)
    (printed : settings.mapM printLine? = some lines)
    (later : Rounds statementRound rest items []) :
    Rounds statementRound (lines.flatten ++ rest)
      (settings.map (some ∘ Setting.statement) ++ items) [] := by
  -- Each line is taken whole, and leaves the lines after it.
  induction settings generalizing lines with
  | nil =>
    obtain rfl : [] = lines := by simpa using printed
    exact later
  | cons setting others ih =>
    obtain ⟨line, others', shown, shown', rfl⟩ := exists_of_mapM_cons printed
    obtain ⟨first, bare⟩ := List.forall_mem_cons.mp bare
    rw [List.flatten_cons, List.append_assoc]
    exact .front _ nofun (statementRound_printLine first shown) (ih bare shown')

/-- A section takes a round for its header and for each of its settings. -/
theorem rounds_section {part : Section} {written : List Char} (plain : part.IsPlain)
    (printed : printSection? part = some written) (later : Rounds statementRound rest items []) :
    Rounds statementRound (written ++ rest) (part.statements.map some ++ items) [] := by
  obtain ⟨lines, shown, rfl⟩ := exists_of_printSection? printed
  -- The header comes first, and the rounds of the settings follow it.
  have body := rounds_lines plain.keys shown later
  have header := Rounds.front ('[' :: (part.name.toList ++ [']', '\n'])) nofun
    (fun next => by simpa using statementRound_header plain.name next) body
  simpa [Section.statements] using header

/-- Sections with an empty line between them take rounds for all their statements, and no others. -/
theorem rounds_sections {sections : List Section} {parts : List (List Char)}
    (plain : ∀ part ∈ sections, part.IsPlain)
    (printed : sections.mapM printSection? = some parts) :
    ∃ items, Rounds statementRound (['\n'].intercalate parts) items [] ∧
      items.filterMap id = sections.flatMap Section.statements := by
  -- The empty lines make rounds as well, but state nothing.
  induction sections generalizing parts with
  | nil =>
    obtain rfl : [] = parts := by simpa using printed
    exact ⟨[], .stop rfl, rfl⟩
  | cons part others ih =>
    obtain ⟨written, others', shown, shown', rfl⟩ := exists_of_mapM_cons printed
    obtain ⟨first, plain⟩ := List.forall_mem_cons.mp plain
    obtain ⟨items, rounds, stated⟩ := ih plain shown'
    cases others' with
    | nil =>
      refine ⟨part.statements.map some ++ items, ?_, ?_⟩
      · simpa using rounds_section first shown rounds
      · simpa using stated
    | cons second later =>
      -- The empty line between two sections is a round that states nothing.
      have blank : Rounds statementRound ('\n' :: ['\n'].intercalate (second :: later))
          (none :: items) [] := .item rfl (Nat.lt_succ_self _) rounds
      refine ⟨part.statements.map some ++ none :: items, ?_, ?_⟩
      · simpa [List.intercalate_cons_cons] using rounds_section first shown blank
      · simpa using stated

/-- Sections that were written are read as the statements that they consist of. -/
theorem statements?_printSections {sections : List Section} {text : String}
    (plain : ∀ part ∈ sections, part.IsPlain) (printed : printSections? sections = some text) :
    statements? text.toList = some (sections.flatMap Section.statements) := by
  obtain ⟨parts, shown, rfl⟩ : ∃ parts, sections.mapM printSection? = some parts ∧
      String.ofList (['\n'].intercalate parts) = text := by
    simpa [printSections?, Option.bind_eq_some_iff] using printed
  -- All that was written is taken by rounds, with nothing left over.
  obtain ⟨items, rounds, stated⟩ := rounds_sections plain shown
  -- The text begins with a bracket, if with anything.
  have unmarked : (['\n'].intercalate parts).head? ≠ some '\ufeff' := by
    cases sections with
    | nil =>
      obtain rfl : [] = parts := by simpa using shown
      simp
    | cons part others =>
      obtain ⟨written, others', first, _, rfl⟩ := exists_of_mapM_cons shown
      obtain ⟨lines, _, rfl⟩ := exists_of_printSection? first
      cases others' with
      | nil => simp
      | cons second later => simp [List.intercalate_cons_cons]
  simpa [statements?, unmarked, rounds.repeated_eq] using stated

end Toml

end ComputerRoom
