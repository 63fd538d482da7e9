import ComputerRoom.Proofs.Config.RoundTrip
import ComputerRoom.Proofs.Toml.Frame

/-!
The fields of a configuration, one by one: what is read of a document in which some of them are
given, and the others are not.
-/

namespace ComputerRoom

namespace Config

/-- A field of a configuration. -/
inductive Field where
  | port
  | demoPort
  | frameSeconds
  | pollSeconds
  | timeoutSeconds
  | hiddenGroups
  | hidesTeachers
  | checksClients
  | skippedInterfaces
  | skippedStarts
  | broadcastTargets
  deriving Repr, DecidableEq

namespace Field

/-- The section that a field is in. -/
def sectionName : Field → String
  | port | demoPort | frameSeconds => "vnc"
  | pollSeconds | timeoutSeconds => "liveness"
  | hiddenGroups | hidesTeachers => "screenshots"
  | checksClients => "addresses"
  | skippedInterfaces | skippedStarts | broadcastTargets => "wake_on_lan"

/-- The key of a field in its section. -/
def key : Field → String
  | port => "port"
  | demoPort => "demo_port"
  | frameSeconds => "framebuffer_update_secs"
  | pollSeconds => "poll_interval_secs"
  | timeoutSeconds => "timeout_secs"
  | hiddenGroups => "hide_for_groups"
  | hidesTeachers => "hide_for_teachers"
  | checksClients => "check_client_addresses"
  | skippedInterfaces => "blacklisted_interfaces"
  | skippedStarts => "blacklisted_interface_prefixes"
  | broadcastTargets => "target_broadcast_ips"

/-- What a field of a configuration holds. -/
def setting (config : Config) : Field → Setting
  | port => .integer config.vnc.port.toNat
  | demoPort => .integer config.vnc.demoPort.toNat
  | frameSeconds => .integer config.vnc.frameSeconds.toNat
  | pollSeconds => .integer config.liveness.pollSeconds.toNat
  | timeoutSeconds => .integer config.liveness.timeoutSeconds.toNat
  | hiddenGroups => .texts config.screenshots.hiddenGroups
  | hidesTeachers => .boolean config.screenshots.hidesTeachers
  | checksClients => .boolean config.addresses.checksClients
  | skippedInterfaces => .texts config.waking.skippedInterfaces
  | skippedStarts => .texts config.waking.skippedStarts
  | broadcastTargets => .texts config.waking.broadcastTargets

/-- The fields in the order in which a configuration is written. -/
def all : List Field :=
  [port, demoPort, frameSeconds, pollSeconds, timeoutSeconds, hiddenGroups, hidesTeachers,
    checksClients, skippedInterfaces, skippedStarts, broadcastTargets]

/-- Every field is written. -/
theorem mem_all (field : Field) : field ∈ all := by
  cases field <;> decide

/-- The settings of the sections of a configuration are its fields, in their order. -/
theorem settings_toSections (config : Config) :
    (config.toSections.flatMap fun part => part.settings.map fun setting => (part.name, setting)) =
      all.map fun field => (field.sectionName, field.key, field.setting config) :=
  rfl

/-- The setting of a field is one of those of its section. -/
theorem exists_section_of_field (config : Config) (field : Field) :
    ∃ part ∈ config.toSections, (field.key, field.setting config) ∈ part.settings := by
  have listed : (field.sectionName, field.key, field.setting config) ∈
      config.toSections.flatMap fun part =>
        part.settings.map fun setting => (part.name, setting) := by
    rw [settings_toSections]
    exact List.mem_map_of_mem field.mem_all
  obtain ⟨part, inside, member⟩ := List.mem_flatMap.mp listed
  obtain ⟨setting, member, same⟩ := List.mem_map.mp member
  obtain ⟨_, rfl⟩ := Prod.mk.inj same
  exact ⟨part, inside, member⟩

/-- No two fields have the same key in the same section. -/
theorem eq_of_key_eq {field other : Field} (same : field.sectionName = other.sectionName)
    (same' : field.key = other.key) : field = other := by
  cases field <;> cases other <;> first | rfl | contradiction

end Field

/-- A configuration of which some fields are kept, and the others have their defaults. -/
def keeping (config : Config) (chosen : Field → Bool) : Config where
  vnc := {
    port := if chosen .port then config.vnc.port else Vnc.standard.port
    demoPort := if chosen .demoPort then config.vnc.demoPort else Vnc.standard.demoPort
    frameSeconds :=
      if chosen .frameSeconds then config.vnc.frameSeconds else Vnc.standard.frameSeconds }
  liveness := {
    pollSeconds :=
      if chosen .pollSeconds then config.liveness.pollSeconds else Liveness.standard.pollSeconds
    timeoutSeconds :=
      if chosen .timeoutSeconds then config.liveness.timeoutSeconds
      else Liveness.standard.timeoutSeconds }
  screenshots := {
    hiddenGroups :=
      if chosen .hiddenGroups then config.screenshots.hiddenGroups
      else Screenshots.standard.hiddenGroups
    hidesTeachers :=
      if chosen .hidesTeachers then config.screenshots.hidesTeachers
      else Screenshots.standard.hidesTeachers }
  addresses := {
    checksClients :=
      if chosen .checksClients then config.addresses.checksClients
      else Addresses.standard.checksClients }
  waking := {
    skippedInterfaces :=
      if chosen .skippedInterfaces then config.waking.skippedInterfaces
      else Waking.standard.skippedInterfaces
    skippedStarts :=
      if chosen .skippedStarts then config.waking.skippedStarts else Waking.standard.skippedStarts
    broadcastTargets :=
      if chosen .broadcastTargets then config.waking.broadcastTargets
      else Waking.standard.broadcastTargets }

/-- Each field is that of the configuration if it is kept, and else its default. -/
theorem setting_keeping (config : Config) (chosen : Field → Bool) (field : Field) :
    field.setting (config.keeping chosen) =
      field.setting (if chosen field then config else standard) := by
  cases kept : chosen field <;> cases field <;> simp [Field.setting, keeping, kept, standard]

/-- The keys of the fields, set apart in the tables of their sections. -/
def reserved : Toml.Reserved := fun name key =>
  ∃ field : Field, field.sectionName = name ∧ field.key = key

instance (name key : String) : Decidable (reserved name key) :=
  decidable_of_iff (∃ field ∈ Field.all, field.sectionName = name ∧ field.key = key)
    ⟨fun ⟨field, _, same⟩ => ⟨field, same⟩, fun ⟨field, same⟩ => ⟨field, field.mem_all, same⟩⟩

instance (name : String) : Decidable (∀ key, ¬reserved name key) :=
  decidable_of_iff (∀ field ∈ Field.all, field.sectionName ≠ name)
    ⟨fun free _ ⟨field, same, _⟩ => free field field.mem_all same,
      fun free field _ same => free field.key ⟨field, same, rfl⟩⟩

/-- One more field is given, and the others are as they were. -/
theorem set_field (given : Toml.Given) (field : Field) (node : Toml.Node) (other : Field) :
    given.set field.sectionName field.key node other.sectionName other.key =
      if other = field then some node else given other.sectionName other.key := by
  by_cases same : other = field
  · subst same
    simp [Toml.Given.set]
  · have apart : ¬(other.sectionName = field.sectionName ∧ other.key = field.key) :=
      fun both => same (Field.eq_of_key_eq both.1 both.2)
    simp [Toml.Given.set, same, apart]

/-- Whether just the chosen fields of a configuration are given. -/
def IsGiven (config : Config) (chosen : Field → Bool) (given : Toml.Given) : Prop :=
  ∀ field : Field, given field.sectionName field.key =
    if chosen field then some (field.setting config).toNode else none

end Config

namespace Toml

/-- What is found in entries as data is what is found in them. -/
theorem lookup_entriesToData (entries : Entries) (key : String) :
    (Node.entriesToData entries).lookup key = (entries.lookup key).map Node.toData := by
  induction entries with
  | nil => rfl
  | cons entry rest ih =>
    obtain ⟨first, node⟩ := entry
    rw [Node.entriesToData, List.lookup_cons, List.lookup_cons, ih]
    cases key == first <;> rfl

end Toml

namespace Config

section Reading

variable {config : Config} {chosen : Field → Bool} {given : Toml.Given}

/-- A field is read from its entry if it is given, and has its default if it is not. -/
theorem optional_field {α : Type} {entries : Toml.Entries} {field : Field}
    (found : entries.lookup field.key =
      if chosen field then some (field.setting config).toNode else none)
    {read : Data → Option α} {kept : α} (reads : read (field.setting config).toData = some kept)
    (fallback : α) :
    Data.optional (Toml.Node.entriesToData entries) field.key fallback read =
      some (if chosen field then kept else fallback) := by
  rw [Data.optional, Toml.lookup_entriesToData, found]
  cases chosen field with
  | false => rfl
  | true => simpa using reads

variable {whole frame : Toml.Entries} (matching : Toml.Matches reserved given whole frame)
  (isGiven : IsGiven config chosen given)
include matching isGiven

/-- A section is read from its table, and is as if that were empty where there is none. -/
theorem exists_section (name : String) (field : Field) (named : field.sectionName = name)
    {α : Type} {read : Data → Option α} {fallback : α}
    (empty : read (.record []) = some fallback) :
    ∃ entries : Toml.Entries, (∀ other : Field, other.sectionName = name →
        entries.lookup other.key =
          if chosen other then some (other.setting config).toNode else none) ∧
      Data.optional (Toml.Node.entriesToData whole) name fallback read =
        read (.record (Toml.Node.entriesToData entries)) := by
  have alike := matching.table name field.key ⟨field, named, rfl⟩
  rw [Data.optional, Toml.lookup_entriesToData]
  generalize whole.lookup name = node at alike ⊢
  generalize frame.lookup name = node' at alike
  cases alike with
  | absent nothing =>
    refine ⟨[], fun other same => ?_, empty.symm⟩
    rw [← isGiven other, same]
    exact (nothing other.key ⟨other, same, rfl⟩).symm
  | @table origin entries _ fills =>
    refine ⟨entries, fun other same => ?_, rfl⟩
    rw [← isGiven other, same]
    exact fills.reserved other.key ⟨other, same, rfl⟩

/-- The section of ports is read. -/
theorem optional_vnc :
    Data.optional (Toml.Node.entriesToData whole) "vnc" Vnc.standard (Vnc.ofData? .any) =
      some (config.keeping chosen).vnc := by
  obtain ⟨entries, found, same⟩ := exists_section matching isGiven "vnc" .port rfl
    (show Vnc.ofData? .any (.record []) = some Vnc.standard from rfl)
  have port := optional_field (found .port rfl) (Data.uint16?_integer config.vnc.port)
  have demoPort := optional_field (found .demoPort rfl) (Data.uint16?_integer config.vnc.demoPort)
  have frameSeconds :=
    optional_field (found .frameSeconds rfl) (Data.uint64?_integer config.vnc.frameSeconds)
  simp only [Field.key] at port demoPort frameSeconds
  simp [same, Vnc.ofData?, Data.entries?, port, demoPort, frameSeconds, keeping]

/-- The section of checks is read. -/
theorem optional_liveness :
    Data.optional (Toml.Node.entriesToData whole) "liveness" Liveness.standard
      (Liveness.ofData? .any) = some (config.keeping chosen).liveness := by
  obtain ⟨entries, found, same⟩ := exists_section matching isGiven "liveness" .pollSeconds rfl
    (show Liveness.ofData? .any (.record []) = some Liveness.standard from rfl)
  have pollSeconds :=
    optional_field (found .pollSeconds rfl) (Data.uint64?_integer config.liveness.pollSeconds)
  have timeoutSeconds :=
    optional_field (found .timeoutSeconds rfl) (Data.uint64?_integer config.liveness.timeoutSeconds)
  simp only [Field.key] at pollSeconds timeoutSeconds
  simp [same, Liveness.ofData?, Data.entries?, pollSeconds, timeoutSeconds, keeping]

/-- The section of hidden screens is read. -/
theorem optional_screenshots :
    Data.optional (Toml.Node.entriesToData whole) "screenshots" Screenshots.standard
      (Screenshots.ofData? .any) = some (config.keeping chosen).screenshots := by
  obtain ⟨entries, found, same⟩ := exists_section matching isGiven "screenshots" .hiddenGroups rfl
    (show Screenshots.ofData? .any (.record []) = some Screenshots.standard from rfl)
  have hiddenGroups :=
    optional_field (found .hiddenGroups rfl) (Data.texts?_texts config.screenshots.hiddenGroups)
  have hidesTeachers := optional_field (found .hidesTeachers rfl)
    (Data.boolean?_boolean config.screenshots.hidesTeachers)
  simp only [Field.key] at hiddenGroups hidesTeachers
  simp [same, Screenshots.ofData?, Data.entries?, hiddenGroups, hidesTeachers, keeping]

/-- The section of address choice is read. -/
theorem optional_addresses :
    Data.optional (Toml.Node.entriesToData whole) "addresses" Addresses.standard
      (Addresses.ofData? .any) = some (config.keeping chosen).addresses := by
  obtain ⟨entries, found, same⟩ := exists_section matching isGiven "addresses" .checksClients rfl
    (show Addresses.ofData? .any (.record []) = some Addresses.standard from rfl)
  have checksClients :=
    optional_field (found .checksClients rfl) (Data.boolean?_boolean config.addresses.checksClients)
  simp only [Field.key] at checksClients
  simp [same, Addresses.ofData?, Data.entries?, checksClients, keeping]

/-- The section of wake packets is read. -/
theorem optional_waking :
    Data.optional (Toml.Node.entriesToData whole) "wake_on_lan" Waking.standard
      (Waking.ofData? .any) = some (config.keeping chosen).waking := by
  obtain ⟨entries, found, same⟩ :=
    exists_section matching isGiven "wake_on_lan" .skippedInterfaces rfl
      (show Waking.ofData? .any (.record []) = some Waking.standard from rfl)
  have skippedInterfaces := optional_field (found .skippedInterfaces rfl)
    (Data.texts?_texts config.waking.skippedInterfaces)
  have skippedStarts :=
    optional_field (found .skippedStarts rfl) (Data.texts?_texts config.waking.skippedStarts)
  have broadcastTargets := optional_field (found .broadcastTargets rfl)
    (Data.texts?_texts config.waking.broadcastTargets)
  simp only [Field.key] at skippedInterfaces skippedStarts broadcastTargets
  simp [same, Waking.ofData?, Data.entries?, skippedInterfaces, skippedStarts, broadcastTargets,
    keeping]

/-- A document in which just the chosen fields are given is read as the configuration of them. -/
theorem ofData?_of_matches :
    ofData? .any (.record (Toml.Node.entriesToData whole)) = some (config.keeping chosen) := by
  have vnc := optional_vnc matching isGiven
  have liveness := optional_liveness matching isGiven
  have screenshots := optional_screenshots matching isGiven
  have addresses := optional_addresses matching isGiven
  have waking := optional_waking matching isGiven
  simp [ofData?, Data.entries?, standard, vnc, liveness, screenshots, addresses, waking]

end Reading

end Config

end ComputerRoom
