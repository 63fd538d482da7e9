import ComputerRoom.Config.File
import ComputerRoom.Proofs.Toml.Document

/-! A configuration that was written as a text reads back as itself. -/

namespace ComputerRoom

namespace Data

/-- A field is read from the first entry, if that has its name, and else from the others. -/
@[simp] theorem optional_cons {α : Type} (name : String) (data : Data)
    (rest : List (String × Data)) (field : String) (fallback : α) (read : Data → Option α) :
    optional ((name, data) :: rest) field fallback read =
      if field == name then read data else optional rest field fallback read := by
  cases same : field == name <;> simp [optional, List.lookup_cons, same]

/-- A number below the limit of its kind reads back as itself. -/
theorem below?_integer {limit number : Nat} (within : number < limit) :
    below? limit (Setting.toData (.integer number)) = some number :=
  if_pos within

/-- An integer of sixteen bits reads back as itself. -/
@[simp] theorem uint16?_integer (value : UInt16) :
    uint16? (Setting.toData (.integer value.toNat)) = some value := by
  rw [uint16?, below?_integer value.toNat_lt, Option.map_some, UInt16.ofNat_toNat]

/-- An integer of sixty-four bits reads back as itself. -/
@[simp] theorem uint64?_integer (value : UInt64) :
    uint64? (Setting.toData (.integer value.toNat)) = some value := by
  rw [uint64?, below?_integer value.toNat_lt, Option.map_some, UInt64.ofNat_toNat]

/-- A truth value reads back as itself. -/
@[simp] theorem boolean?_boolean (value : Bool) :
    boolean? (Setting.toData (.boolean value)) = some value := rfl

/-- A list of texts reads back as itself. -/
@[simp] theorem texts?_texts (values : List String) :
    texts? (Setting.toData (.texts values)) = some values := by
  -- Each text of the list is read on its own.
  have each : (values.map text).mapM text? = some values := by
    induction values with
    | nil => rfl
    | cons value rest ih => simp [List.mapM_cons, text?, ih]
  exact each

end Data

namespace Toml

/-- A list can be written if everything in it can. -/
theorem isSome_mapM {α β : Type} (write : α → Option β) (list : List α) :
    (list.mapM write).isSome ↔ ∀ value ∈ list, (write value).isSome := by
  -- One item that cannot be written spoils the whole.
  induction list with
  | nil => simp
  | cons head tail ih =>
    rw [List.forall_mem_cons, ← ih, List.mapM_cons]
    cases write head with
    | none => simp
    | some first => cases tail.mapM write <;> simp

/-- A section can be written if, and only if, every setting in it can. -/
theorem isSome_printSection? (part : Section) : (printSection? part).isSome ↔
    ∀ setting ∈ part.settings, (printSetting? setting.2).isSome := by
  have whole : (printSection? part).isSome = (part.settings.mapM printLine?).isSome := by
    rw [printSection?]
    cases part.settings.mapM printLine? <;> rfl
  rw [whole, isSome_mapM]
  simp only [printLine?, Option.isSome_map]

/-- Sections can be written if, and only if, every setting in them can. -/
theorem isSome_printSections? (sections : List Section) :
    (printSections? sections).isSome ↔
      ∀ part ∈ sections, ∀ setting ∈ part.settings, (printSetting? setting.2).isSome := by
  have whole : (printSections? sections).isSome = (sections.mapM printSection?).isSome := by
    rw [printSections?]
    cases sections.mapM printSection? <;> rfl
  rw [whole, isSome_mapM]
  simp only [isSome_printSection?]

end Toml

namespace Config

/-- The integers of a configuration, in the order in which they are written. -/
def integers (config : Config) : List Nat :=
  [config.vnc.port.toNat, config.vnc.demoPort.toNat, config.vnc.frameSeconds.toNat,
    config.liveness.pollSeconds.toNat, config.liveness.timeoutSeconds.toNat]

/-- No name in a configuration needs quotes, and no two settings of a section share one. -/
theorem isPlain_toSections (config : Config) : ∀ part ∈ config.toSections, part.IsPlain := by
  -- The names of the settings are fixed, so they can be looked through.
  have vnc : config.vnc.toSection.IsPlain := by
    constructor <;> simp [IsBareKey, Vnc.toSection, Toml.isBareKeyChar]
  have liveness : config.liveness.toSection.IsPlain := by
    constructor <;> simp [IsBareKey, Liveness.toSection, Toml.isBareKeyChar]
  have screenshots : config.screenshots.toSection.IsPlain := by
    constructor <;> simp [IsBareKey, Screenshots.toSection, Toml.isBareKeyChar]
  have addresses : config.addresses.toSection.IsPlain := by
    constructor <;> simp [IsBareKey, Addresses.toSection, Toml.isBareKeyChar]
  have waking : config.waking.toSection.IsPlain := by
    constructor <;> simp [IsBareKey, Waking.toSection, Toml.isBareKeyChar]
  simp [toSections, vnc, liveness, screenshots, addresses, waking]

/-- A configuration that was turned into data reads back as itself. -/
theorem ofData?_toData (lists : ListLength) (config : Config) :
    ofData? lists config.toData = some config := by
  -- Every section has an entry for each of its fields, so no default is used.
  have vnc : Vnc.ofData? lists (Section.toData config.vnc.toSection).2 = some config.vnc := by
    simp [Vnc.ofData?, Section.toData, Vnc.toSection, Data.entries?]
  have liveness : Liveness.ofData? lists (Section.toData config.liveness.toSection).2 =
      some config.liveness := by
    simp [Liveness.ofData?, Section.toData, Liveness.toSection, Data.entries?]
  have screenshots : Screenshots.ofData? lists (Section.toData config.screenshots.toSection).2 =
      some config.screenshots := by
    simp [Screenshots.ofData?, Section.toData, Screenshots.toSection, Data.entries?]
  have addresses : Addresses.ofData? lists (Section.toData config.addresses.toSection).2 =
      some config.addresses := by
    simp [Addresses.ofData?, Section.toData, Addresses.toSection, Data.entries?]
  have waking : Waking.ofData? lists (Section.toData config.waking.toSection).2 =
      some config.waking := by
    simp [Waking.ofData?, Section.toData, Waking.toSection, Data.entries?]
  -- The sections stand side by side, each under the name it is looked up by.
  have whole : config.toData = .record [("vnc", (Section.toData config.vnc.toSection).2),
      ("liveness", (Section.toData config.liveness.toSection).2),
      ("screenshots", (Section.toData config.screenshots.toSection).2),
      ("addresses", (Section.toData config.addresses.toSection).2),
      ("wake_on_lan", (Section.toData config.waking.toSection).2)] := rfl
  simp [ofData?, whole, Data.entries?, vnc, liveness, screenshots, addresses, waking]

/-- A configuration can be written if, and only if, its integers fit sixty-three bits. -/
theorem exists_toText?_iff (config : Config) :
    (∃ text, config.toText? = some text) ↔
      ∀ number ∈ config.integers, number < Toml.int64Bound := by
  -- Of all the settings, an integer alone can be too large.
  have integer (number : Nat) :
      (Toml.printSetting? (.integer number)).isSome ↔ number < Toml.int64Bound := by
    rw [Toml.printSetting?]
    split <;> simp [*]
  have boolean (truth : Bool) : (Toml.printSetting? (.boolean truth)).isSome := by
    cases truth <;> rfl
  have texts (values : List String) : (Toml.printSetting? (.texts values)).isSome := rfl
  rw [← Option.isSome_iff_exists, toText?, Toml.isSome_printSections?]
  simp only [toSections, Vnc.toSection, Liveness.toSection, Screenshots.toSection,
    Addresses.toSection, Waking.toSection, integers, List.forall_mem_cons, List.not_mem_nil,
    integer, boolean, texts, false_implies, implies_true, and_true, and_assoc]

/-- A configuration that was written as a text reads back as itself. -/
theorem ofText?_toText? {config : Config} {text : String} (printed : config.toText? = some text) :
    ofText? text = some config := by
  -- Two sections of one name would not be read as two tables.
  have distinct : (config.toSections.map Section.name).Nodup := by
    simp [toSections, Vnc.toSection, Liveness.toSection, Screenshots.toSection,
      Addresses.toSection, Waking.toSection]
  rw [ofText?, Toml.document?_printSections config.isPlain_toSections distinct printed]
  exact ofData?_toData .any config

end Config

end ComputerRoom
