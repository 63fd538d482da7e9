import ComputerRoom.Proofs.Toml.Statements

/-! Sections that were written read back as a record of their settings. -/

namespace ComputerRoom

/-- A setting as it is read: its key and the node under it. -/
def Setting.toEntry (setting : String × Setting) : String × Toml.Node :=
  (setting.1, setting.2.toNode)

namespace Section

/-- A section as it is read: its name and the table of its settings. -/
def toEntry (part : Section) : String × Toml.Node :=
  (part.name, .table .header (part.settings.map Setting.toEntry))

/-- A section as data: its name and the record of its settings. -/
def toData (part : Section) : String × Data :=
  (part.name, .record (part.settings.map fun setting => (setting.1, setting.2.toData)))

end Section

namespace Toml

/-- A key has no node where no entry has that key. -/
theorem lookup_eq_none {entries : Entries} {key : String} (fresh : key ∉ entries.map Prod.fst) :
    entries.lookup key = none := by
  rw [List.lookup_eq_none_iff]
  intro entry member
  have other : key ≠ entry.1 := by
    rintro rfl
    exact fresh (List.mem_map_of_mem member)
  simpa using other

/-- The last entry is found under its key, if no other has it. -/
theorem lookup_concat {entries : Entries} {key : String} (fresh : key ∉ entries.map Prod.fst)
    (node : Node) : (entries ++ [(key, node)]).lookup key = some node := by
  simp [List.lookup_append, lookup_eq_none fresh]

/-- A node under a new key becomes the last entry. -/
theorem put_of_fresh {entries : Entries} {key : String} (fresh : key ∉ entries.map Prod.fst)
    (node : Node) : entries.put key node = entries ++ [(key, node)] := by
  -- Every entry that is passed has another key.
  induction entries with
  | nil => rfl
  | cons entry rest ih =>
    obtain ⟨other, later⟩ : key ≠ entry.1 ∧ key ∉ rest.map Prod.fst := by simpa using fresh
    simp [Entries.put, Ne.symm other, ih later]

/-- A node takes the place of the last entry, if no other has its key. -/
theorem put_concat {entries : Entries} {key : String} (fresh : key ∉ entries.map Prod.fst)
    (old node : Node) :
    (entries ++ [(key, old)] : Entries).put key node = entries ++ [(key, node)] := by
  -- The entries before the last one are passed, since they have other keys.
  induction entries with
  | nil => simp [Entries.put]
  | cons entry rest ih =>
    obtain ⟨other, later⟩ : key ≠ entry.1 ∧ key ∉ rest.map Prod.fst := by simpa using fresh
    simp [Entries.put, Ne.symm other, ih later]

/-- A header of a new name opens an empty table at the end. -/
theorem apply_openTable {root : Entries} {name : String} (fresh : name ∉ root.map Prod.fst)
    (opened : List String) :
    Assembly.apply ⟨root, opened⟩ (.openTable ⟨[], name⟩) =
      some ⟨root ++ [(name, .table .header [])], [name]⟩ := by
  -- A name alone leads to the root, so no other table is touched.
  simp [Assembly.apply, Entries.openTable, Entries.within, lookup_eq_none fresh, put_of_fresh fresh]

variable {before : Entries} {name : String}

/-- A setting under a new key becomes the last entry of the table that is open. -/
theorem apply_statement (unnamed : name ∉ before.map Prod.fst) {table : Entries}
    {setting : String × Setting} (fresh : setting.1 ∉ table.map Prod.fst) :
    Assembly.apply ⟨before ++ [(name, .table .header table)], [name]⟩ (Setting.statement setting) =
      some ⟨before ++ [(name, .table .header (table ++ [Setting.toEntry setting]))], [name]⟩ := by
  -- Inside the open table there is no such key yet.
  have assigned : Entries.assign table [] setting.1 setting.2.toNode .header =
      some (table ++ [Setting.toEntry setting]) := by
    simp [Entries.assign, Entries.within, lookup_eq_none fresh, Setting.toEntry]
  simp [Assembly.apply, Setting.statement, Entries.within, lookup_concat unnamed, Origin.opens,
    assigned, put_concat unnamed]

/-- The settings of a section fill the table that its header opened. -/
theorem foldlM_settings (unnamed : name ∉ before.map Prod.fst)
    {settings : List (String × Setting)} {table : Entries}
    (distinct : (table.map Prod.fst ++ settings.map Prod.fst).Nodup) :
    (settings.map Setting.statement).foldlM Assembly.apply
        ⟨before ++ [(name, .table .header table)], [name]⟩ =
      some ⟨before ++ [(name, .table .header (table ++ settings.map Setting.toEntry))],
        [name]⟩ := by
  -- The table that is open grows by a setting at a time, so what it holds already is left open.
  induction settings generalizing table with
  | nil => simp
  | cons setting later ih =>
    have fresh : setting.1 ∉ table.map Prod.fst := by
      intro member
      have apart := (List.nodup_append.mp distinct).2.2
      exact apart setting.1 member setting.1 (by simp) rfl
    have onward : ((table ++ [Setting.toEntry setting]).map Prod.fst ++
        later.map Prod.fst).Nodup := by
      simpa [Setting.toEntry] using distinct
    simp [apply_statement unnamed fresh, ih onward]

/-- Sections of different names make a table each. -/
theorem foldlM_sections (before : Entries) {sections : List Section}
    (plain : ∀ part ∈ sections, part.IsPlain)
    (distinct : (before.map Prod.fst ++ sections.map Section.name).Nodup) (opened : List String) :
    ∃ last, (sections.flatMap Section.statements).foldlM Assembly.apply ⟨before, opened⟩ =
      some ⟨before ++ sections.map Section.toEntry, last⟩ := by
  -- The sections before this one are closed: nothing is assigned to their tables any more.
  induction sections generalizing before opened with
  | nil => exact ⟨opened, by simp⟩
  | cons part later ih =>
    obtain ⟨first, plain⟩ := List.forall_mem_cons.mp plain
    have fresh : part.name ∉ before.map Prod.fst := by
      intro member
      have apart := (List.nodup_append.mp distinct).2.2
      exact apart part.name member part.name (by simp) rfl
    -- The header opens an empty table, and the settings fill it.
    have filled : (part.settings.map Setting.statement).foldlM Assembly.apply
        ⟨before ++ [(part.name, .table .header [])], [part.name]⟩ =
        some ⟨before ++ [part.toEntry], [part.name]⟩ :=
      foldlM_settings fresh (by simpa using first.distinct)
    have onward : ((before ++ [part.toEntry]).map Prod.fst ++
        later.map Section.name).Nodup := by
      simpa [Section.toEntry] using distinct
    obtain ⟨last, made⟩ := ih _ plain onward [part.name]
    refine ⟨last, ?_⟩
    simp [Section.statements, List.foldlM_append, apply_openTable fresh, filled, made]

/-- What is read of sections is the sections as data. -/
theorem entriesToData_sections (sections : List Section) :
    Node.entriesToData (sections.map Section.toEntry) = sections.map Section.toData := by
  simp [Node.entriesToData_eq_map, Node.toData, Section.toEntry, Section.toData, Setting.toEntry]

/-- Sections that were written are read as the record of their settings. -/
theorem document?_printSections {sections : List Section} {text : String}
    (plain : ∀ part ∈ sections, part.IsPlain) (distinct : (sections.map Section.name).Nodup)
    (printed : printSections? sections = some text) :
    document? text = some (.record (sections.map Section.toData)) := by
  -- The first section starts from an empty root.
  obtain ⟨last, made⟩ := foldlM_sections [] plain (by simpa using distinct) []
  simp [document?, statements?_printSections plain printed, Assembly.start, made,
    entriesToData_sections]

end Toml

end ComputerRoom
