import ComputerRoom.Proofs.Config.Fields
import ComputerRoom.Proofs.Config.File
import ComputerRoom.Proofs.Toml.Passage

/-!
Files that give some of the fields of a configuration, among whatever else they hold: the fields
that are given override the defaults, one by one.
-/

namespace ComputerRoom.Config

/-- A part of a file: the line of a field as it is saved, or lines of other statements. -/
inductive Part where
  | line (field : Field)
  | others (passage : Toml.Passage)

namespace Part

/-- The field whose line a part is, if it is one. -/
def field? : Part → Option Field
  | .line field => some field
  | .others _ => none

/-- The passage that a part is, if it is one. -/
def passage? : Part → Option Toml.Passage
  | .line _ => none
  | .others passage => some passage

/-- The lines of a part, where the fields hold what they do in a configuration. -/
def text? (config : Config) : Part → Option (List Char)
  | .line field => Toml.printLine? (field.key, field.setting config)
  | .others passage => some (passage.text.toList ++ ['\n'])

/-- What a part states. -/
def stated (config : Config) : Part → List Toml.Statement
  | .line field => [Setting.statement (field.key, field.setting config)]
  | .others passage => passage.stated

/--
Whether every field stands in the table of its section, and all the passages between the fields
leave the keys of fields alone; `opened` is the table that the parts begin in.
-/
def ArePlaced (opened : List String) : List Part → Prop
  | [] => True
  | .line field :: rest => opened = [field.sectionName] ∧ ArePlaced opened rest
  | .others passage :: rest =>
    Toml.Statement.AreForeign reserved opened passage.stated ∧
      ArePlaced (Toml.Statement.leaveOpen opened passage.stated) rest

instance decidableArePlaced :
    (opened : List String) → (parts : List Part) → Decidable (ArePlaced opened parts)
  | _, [] => inferInstanceAs (Decidable True)
  | opened, .line field :: rest =>
    have := decidableArePlaced opened rest
    inferInstanceAs (Decidable (opened = [field.sectionName] ∧ ArePlaced opened rest))
  | opened, .others passage :: rest =>
    have := decidableArePlaced (Toml.Statement.leaveOpen opened passage.stated) rest
    inferInstanceAs (Decidable (Toml.Statement.AreForeign reserved opened passage.stated ∧
      ArePlaced (Toml.Statement.leaveOpen opened passage.stated) rest))

end Part

/-- A file that gives just the chosen fields of a configuration, among passages of other things. -/
structure PartialFile (chosen : Field → Bool) where
  parts : List Part
  /-- What stands behind the last line feed. -/
  last : Toml.Passage
  once : (parts.filterMap Part.field?).Nodup
  chosen_iff : ∀ field, field ∈ parts.filterMap Part.field? ↔ chosen field = true
  placed : Part.ArePlaced [] (parts ++ [.others last])
  /-- Without the fields, the file is a document. -/
  valid : (Toml.document? (String.ofList
    ((parts.filterMap Part.passage?).flatMap (fun passage => passage.text.toList ++ ['\n']) ++
      last.text.toList))).isSome

/-- The text of a file, where the fields hold what they do in a configuration. -/
def PartialFile.text? {chosen : Field → Bool} (file : PartialFile chosen) (config : Config) :
    Option String :=
  (file.parts.mapM (Part.text? config)).map fun lines =>
    String.ofList (lines.flatten ++ file.last.text.toList)

section Reading

variable {config : Config} {parts : List Part}

/-- The fields of a configuration that can be written can be written one by one. -/
theorem isSome_text? (savable : ∃ text, config.toText? = some text) (part : Part) :
    (part.text? config).isSome := by
  cases part with
  | others passage => rfl
  | line field =>
    obtain ⟨part, inside, member⟩ := field.exists_section_of_field config
    have written := (Toml.isSome_printSections? _).mp
      (Option.isSome_iff_exists.mpr savable) part inside _ member
    simpa [Part.text?, Toml.printLine?] using written

/-- The lines of parts state what the parts do, and then what the lines behind them do. -/
theorem states_parts {lines : List (List Char)}
    (written : parts.mapM (Part.text? config) = some lines) {tail : List Char}
    {later : List Toml.Statement} (onward : Toml.States tail later) :
    Toml.States (lines.flatten ++ tail) (parts.flatMap (Part.stated config) ++ later) := by
  induction parts generalizing lines with
  | nil =>
    obtain rfl : [] = lines := by simpa using written
    exact onward
  | cons part rest ih =>
    obtain ⟨first, others, shown, shown', rfl⟩ := Toml.exists_of_mapM_cons written
    have behind := ih shown'
    cases part with
    | line field =>
      -- The key is one that needs no quotes, and its line is not empty.
      obtain ⟨part, inside, member⟩ := field.exists_section_of_field config
      have bare := (config.isPlain_toSections part inside).keys _ member
      have something : first ≠ [] := by
        obtain ⟨written, _, rfl⟩ := Option.map_eq_some_iff.mp shown
        simp
      simpa [Part.stated] using
        behind.cons something (Toml.statementRound_printLine bare shown _)
    | others passage =>
      obtain rfl : passage.text.toList ++ ['\n'] = first := Option.some.inj shown
      simpa [Part.stated] using passage.states.append behind

/-- The passages of a file state one after the other what each of them does. -/
theorem states_passages (passages : List Toml.Passage) (last : Toml.Passage) :
    Toml.States (passages.flatMap (fun passage => passage.text.toList ++ ['\n']) ++
      last.text.toList) ((passages ++ [last]).flatMap Toml.Passage.stated) := by
  induction passages with
  | nil => simpa using last.states
  | cons passage rest ih => simpa using passage.states.append ih

variable (config) in
/-- The parts of a file make a document of what is given, where its passages make the frame. -/
theorem foldlM_parts {given : Toml.Given} {whole frame frame' : Toml.Assembly}
    (follows : Toml.Follows reserved given whole frame) (placed : Part.ArePlaced frame.opened parts)
    (once : (parts.filterMap Part.field?).Nodup)
    (new : ∀ field ∈ parts.filterMap Part.field?, given field.sectionName field.key = none)
    (made : ((parts.filterMap Part.passage?).flatMap Toml.Passage.stated).foldlM
      Toml.Assembly.apply frame = some frame') :
    ∃ whole' given', (parts.flatMap (Part.stated config)).foldlM Toml.Assembly.apply whole =
        some whole' ∧ Toml.Follows reserved given' whole' frame' ∧
      ∀ field : Field, given' field.sectionName field.key =
        if field ∈ parts.filterMap Part.field? then some (field.setting config).toNode
        else given field.sectionName field.key := by
  induction parts generalizing given whole frame with
  | nil =>
    obtain rfl : frame = frame' := by simpa using made
    exact ⟨whole, given, rfl, follows, fun field => by simp⟩
  | cons part rest ih =>
    cases part with
    | line field =>
      obtain ⟨opened, placed⟩ := placed
      obtain ⟨other, once⟩ := List.nodup_cons.mp once
      obtain ⟨free, new⟩ := List.forall_mem_cons.mp new
      obtain ⟨whole₁, one, follows₁⟩ := follows.apply_reserved ⟨field, rfl, rfl⟩ opened free
        (field.setting config).toNode
      -- The fields that come later are not given yet.
      obtain ⟨whole', given', others, follows', holds⟩ := ih follows₁ placed once (by
        intro field' member
        have differs : field' ≠ field := by
          rintro rfl
          exact other member
        rw [set_field, if_neg differs, new field' member]) made
      refine ⟨whole', given', ?_, follows', fun field' => ?_⟩
      · simp [Part.stated, Setting.statement, one, others]
      · rw [holds, set_field]
        by_cases same : field' = field
        · subst same
          simp [Part.field?]
        · simp [Part.field?, same]
    | others passage =>
      have made : (passage.stated ++ (rest.filterMap Part.passage?).flatMap
          Toml.Passage.stated).foldlM Toml.Assembly.apply frame = some frame' := made
      rw [List.foldlM_append] at made
      obtain ⟨middle, one, others⟩ := Option.bind_eq_some_iff.mp made
      obtain ⟨opened, whole₁, one', follows₁⟩ := follows.foldlM_foreign placed.1 one
      obtain ⟨whole', given', others', follows', holds⟩ :=
        ih follows₁ (by rw [opened]; exact placed.2) once new others
      refine ⟨whole', given', ?_, follows', holds⟩
      simp [Part.stated, one', others', List.foldlM_append]

/-- A file of some fields is read as the configuration in which just those are kept. -/
theorem ofText?_partial {chosen : Field → Bool} (file : PartialFile chosen)
    {lines : List (List Char)} (written : file.parts.mapM (Part.text? config) = some lines) :
    ofText? (String.ofList (lines.flatten ++ file.last.text.toList)) =
      some (config.keeping chosen) := by
  -- What stands behind the last line feed is one more passage.
  have fields : (file.parts ++ [Part.others file.last]).filterMap Part.field? =
      file.parts.filterMap Part.field? := by
    rw [List.filterMap_append]
    exact List.append_nil _
  have passages : (file.parts ++ [Part.others file.last]).filterMap Part.passage? =
      file.parts.filterMap Part.passage? ++ [file.last] := List.filterMap_append ..
  -- The passages alone make a document, which is the frame of the one that the file makes.
  have frames := (states_passages (file.parts.filterMap Part.passage?) file.last).document?
  rw [← passages] at frames
  obtain ⟨data, document⟩ := Option.isSome_iff_exists.mp file.valid
  obtain ⟨frame, made, _⟩ := Option.map_eq_some_iff.mp (frames.symm.trans document)
  obtain ⟨whole, given, carried, follows, holds⟩ := foldlM_parts config
    (.start fun _ _ => rfl) file.placed (fields ▸ file.once) (fun _ _ => rfl) made
  have isGiven : IsGiven config chosen given := by
    intro field
    rw [holds, fields]
    simp only [file.chosen_iff field]
  have stated : (file.parts ++ [Part.others file.last]).flatMap (Part.stated config) =
      file.parts.flatMap (Part.stated config) ++ file.last.stated := by
    simp [Part.stated]
  rw [ofText?, (states_parts written file.last.states).document?, ← stated, carried]
  exact ofData?_of_matches follows.matching isGiven

end Reading

/-- The names of the sections. -/
def sectionNames : List String :=
  ["vnc", "liveness", "screenshots", "addresses", "wake_on_lan"]

/-- The name of a section. -/
abbrev SectionName := {name : String // name ∈ sectionNames}

/-- The section that a field is in, by its name. -/
def Field.section (field : Field) : SectionName :=
  ⟨field.sectionName, by cases field <;> decide⟩

/-- The name of a section needs no quotes. -/
theorem isBareKey_sectionName (name : SectionName) : IsBareKey name.1 := by
  -- The names are those of the sections that are written.
  have written : name.1 ∈ standard.toSections.map Section.name := name.2
  obtain ⟨part, inside, same⟩ := List.mem_map.mp written
  exact same ▸ (standard.isPlain_toSections part inside).name

/-- The header of a section states that its table is opened. -/
theorem statements?_header {name : String} (known : name ∈ sectionNames) :
    Toml.statements? ('[' :: (name.toList ++ [']'])) = some [.openTable ⟨[], name⟩] := by
  simp only [sectionNames, List.mem_cons, List.not_mem_nil, or_false] at known
  obtain rfl | rfl | rfl | rfl | rfl := known <;> rfl

/-- The header of a section. -/
def headerOf (name : SectionName) : Toml.Passage where
  text := String.ofList ('[' :: (name.1.toList ++ [']']))
  stated := [.openTable ⟨[], name.1⟩]
  unmarked := by simp
  reads := by
    rw [String.toList_ofList]
    exact statements?_header name.2

/-- The chosen fields of a section. -/
def chosenIn (chosen : Field → Bool) (name : SectionName) : List Field :=
  Field.all.filter fun field => field.section == name && chosen field

/-- A section with the fields of it that are chosen. -/
def sectionParts (chosen : Field → Bool) (name : SectionName) : List Part :=
  .others (headerOf name) :: (chosenIn chosen name).map .line

section Sections

variable {chosen : Field → Bool} {names : List SectionName}

/-- A field is given in its section if it is chosen. -/
theorem mem_chosenIn_iff {name : SectionName} {field : Field} :
    field ∈ chosenIn chosen name ↔ field.section = name ∧ chosen field = true := by
  rw [chosenIn, List.mem_filter, Bool.and_eq_true, beq_iff_eq, and_iff_right field.mem_all]

/-- The fields that sections give are those that are chosen in each of them. -/
theorem filterMap_field?_sections : (names.flatMap (sectionParts chosen)).filterMap
    Part.field? = names.flatMap (chosenIn chosen) := by
  rw [List.filterMap_flatMap]
  refine congrArg (names.flatMap ·) (funext fun name => ?_)
  rw [sectionParts, List.filterMap_cons_none rfl, List.filterMap_map]
  exact List.filterMap_some

/-- The passages in sections are their headers. -/
theorem filterMap_passage?_sections : (names.flatMap (sectionParts chosen)).filterMap
    Part.passage? = names.map headerOf := by
  rw [List.filterMap_flatMap, List.map_eq_flatMap]
  refine congrArg (names.flatMap ·) (funext fun name => ?_)
  have none : ((chosenIn chosen name).map Part.line).filterMap Part.passage? = [] := by
    simp [Part.passage?]
  exact congrArg (headerOf name :: ·) none

/-- The fields of a section are placed behind its header. -/
theorem arePlaced_lines {name : String} {fields : List Field} {rest : List Part}
    (within : ∀ field ∈ fields, field.sectionName = name) (behind : Part.ArePlaced [name] rest) :
    Part.ArePlaced [name] (fields.map .line ++ rest) := by
  induction fields with
  | nil => exact behind
  | cons field others ih =>
    obtain ⟨own, within⟩ := List.forall_mem_cons.mp within
    exact ⟨congrArg (fun name => [name]) own.symm, ih within⟩

/-- Every section is placed wherever the one before it ends. -/
theorem arePlaced_sections {rest : List Part} (behind : ∀ opened, Part.ArePlaced opened rest)
    (opened : List String) :
    Part.ArePlaced opened (names.flatMap (sectionParts chosen) ++ rest) := by
  induction names generalizing opened with
  | nil => exact behind opened
  | cons name others ih =>
    -- The header leaves all fields alone, and its table is open for the lines behind it.
    rw [List.flatMap_cons, List.append_assoc]
    refine ⟨⟨.inl rfl, trivial⟩, arePlaced_lines (fun field member => ?_) (ih [name.1])⟩
    exact congrArg Subtype.val (mem_chosenIn_iff.mp member).1

/-- The fields of different sections are different. -/
theorem nodup_flatMap_chosenIn (distinct : names.Nodup) :
    (names.flatMap (chosenIn chosen)).Nodup := by
  induction names with
  | nil => exact .nil
  | cons name rest ih =>
    obtain ⟨other, distinct⟩ := List.nodup_cons.mp distinct
    refine List.nodup_append.mpr ⟨.filter _ (by decide), ih distinct, ?_⟩
    rintro field member _ later rfl
    obtain ⟨name', inside, member'⟩ := List.mem_flatMap.mp later
    have same := (mem_chosenIn_iff.mp member).1.symm.trans (mem_chosenIn_iff.mp member').1
    exact other (same ▸ inside)

/-- The headers of different sections make a document. -/
theorem document?_headers (distinct : names.Nodup) :
    (Toml.document? (String.ofList ((names.map headerOf).flatMap
      (fun passage => passage.text.toList ++ ['\n']) ++ "".toList))).isSome := by
  let last : Toml.Passage := ⟨"", [], by decide, rfl⟩
  -- The document is that of sections without settings.
  let sections : List Section := names.map fun name => ⟨name.1, []⟩
  have plain : ∀ part ∈ sections, part.IsPlain := by
    simp only [sections, List.forall_mem_map]
    intro name _
    exact ⟨isBareKey_sectionName name, nofun, .nil⟩
  have apart : (sections.map Section.name).Nodup := by
    rw [List.map_map]
    exact List.pairwise_map.mpr (distinct.imp fun other same => other (Subtype.ext same))
  obtain ⟨_, made⟩ := Toml.foldlM_sections [] plain (by simpa using apart) []
  have stated : (names.map headerOf ++ [last]).flatMap Toml.Passage.stated =
      sections.flatMap Section.statements := by
    simp [sections, last, headerOf, Section.statements, List.flatMap_map]
  rw [(states_passages (names.map headerOf) last).document?, stated, Toml.Assembly.start, made]
  rfl

end Sections

/-- The file of the chosen fields in which sections come in some order. -/
def PartialFile.ofSections (chosen : Field → Bool) (names : List SectionName)
    (distinct : names.Nodup) (within : ∀ field, chosen field = true → field.section ∈ names) :
    PartialFile chosen where
  parts := names.flatMap (sectionParts chosen)
  last := ⟨"", [], by decide, rfl⟩
  once := by
    rw [filterMap_field?_sections]
    exact nodup_flatMap_chosenIn distinct
  chosen_iff := by
    intro field
    rw [filterMap_field?_sections, List.mem_flatMap]
    constructor
    · rintro ⟨name, _, member⟩
      exact (mem_chosenIn_iff.mp member).2
    · intro isChosen
      exact ⟨field.section, within field isChosen, mem_chosenIn_iff.mpr ⟨rfl, isChosen⟩⟩
  placed := by
    refine arePlaced_sections (fun opened => ?_) []
    exact ⟨trivial, trivial⟩
  valid := by
    rw [filterMap_passage?_sections]
    exact document?_headers distinct

/--
Whatever fields of a configuration that can be saved are chosen, a file that gives just those, each
on its line as it is saved, loads as the configuration with these fields and the defaults for the
others: in any order of the sections, and with any other keys and tables among them. The sections
alone make such a file in any order, where one without chosen fields is empty or left out.
-/
theorem load_partial {config : Config} {chosen : Field → Bool}
    (savable : ∃ text, config.toText? = some text) :
    (∀ file : PartialFile chosen, ∃ text, file.text? config = some text ∧
      ∀ (tree : FileTree) (path : String), tree.read path = .ok text.toUTF8 →
        load tree path = .ok (config.keeping chosen)) ∧
    ∀ names : List SectionName, names.Nodup →
      (∀ field, chosen field = true → field.section ∈ names) →
        ∃ file : PartialFile chosen, file.parts = names.flatMap (sectionParts chosen) ∧
          file.last.text = "" := by
  refine ⟨fun file => ?_, fun names distinct within =>
    ⟨.ofSections chosen names distinct within, rfl, rfl⟩⟩
  have each : (file.parts.mapM (Part.text? config)).isSome :=
    (Toml.isSome_mapM _ _).mpr fun part _ => isSome_text? savable part
  obtain ⟨lines, written⟩ := Option.isSome_iff_exists.mp each
  refine ⟨_, congrArg (Option.map _) written, fun tree path read => ?_⟩
  simp only [load, read, fromUTF8?_toUTF8, ofText?_partial file written]

/-- A timeout and some starts of names are chosen. -/
def someFields (field : Field) : Bool :=
  field == .timeoutSeconds || field == .skippedStarts

/-- A file with other keys in sections with fields and without, and with an empty section. -/
def someFile : PartialFile someFields where
  parts := [
    .others {
      text := "# Room 12\nowner = \"it\" # asked for\n[wake_on_lan]\nnotes = [1, [\"a\"]]"
      stated := [.assign ⟨[], "owner"⟩ (.text "it"), .openTable ⟨[], "wake_on_lan"⟩,
        .assign ⟨[], "notes"⟩ (.array [.integer 1, .array [.text "a"]])]
      unmarked := by decide
      reads := rfl },
    .line .skippedStarts,
    .others {
      text := "\n[[printers]]\nname = 'hp'\n[liveness]"
      stated := [.extendRow ⟨[], "printers"⟩, .assign ⟨[], "name"⟩ (.text "hp"),
        .openTable ⟨[], "liveness"⟩]
      unmarked := by decide
      reads := rfl },
    .line .timeoutSeconds]
  last := {
    text := "[screenshots]\n[vnc.extra]\nsince = 2024-05-01"
    stated := [.openTable ⟨[], "screenshots"⟩, .openTable ⟨["vnc"], "extra"⟩,
      .assign ⟨[], "since"⟩ (.moment "2024-05-01")]
    unmarked := by decide
    reads := rfl }
  once := by decide
  chosen_iff := by
    intro field
    cases field <;> decide
  placed := by decide
  valid := by
    rw [(states_passages _ _).document?]
    rfl

/-- A configuration of which nothing is a default. -/
def unlikeStandard : Config where
  vnc := ⟨5900, 5901, 5⟩
  liveness := ⟨2, 30⟩
  screenshots := ⟨[], false⟩
  addresses := ⟨true⟩
  waking := ⟨["lo"], ["docker", "veth"], ["192.168.7.255"]⟩

/-- The file gives a field of two sections each, and the later of them first. -/
theorem load_partial_some : (∃ text, unlikeStandard.toText? = some text) ∧
    ∃ text, someFile.text? unlikeStandard = some text ∧
      load ⟨[(["room.toml"], .file text.toUTF8)]⟩ "room.toml" =
        .ok { standard with liveness := ⟨1, 30⟩, waking := ⟨[], ["docker", "veth"], []⟩ } := by
  have savable : ∃ text, unlikeStandard.toText? = some text :=
    (exists_toText?_iff _).mpr (by decide)
  obtain ⟨text, written, loads⟩ := (load_partial savable).1 someFile
  exact ⟨savable, text, written, loads _ "room.toml" rfl⟩

end ComputerRoom.Config
