import ComputerRoom.Config.Basic
import ComputerRoom.Toml.Section

/-! The configuration as named sections of named fields, written out and read back. -/

namespace ComputerRoom

namespace Config

/-- The section of ports. -/
def Vnc.toSection (vnc : Vnc) : Section :=
  ⟨"vnc", [("port", .integer vnc.port.toNat), ("demo_port", .integer vnc.demoPort.toNat),
    ("framebuffer_update_secs", .integer vnc.frameSeconds.toNat)]⟩

/-- The section of checks. -/
def Liveness.toSection (liveness : Liveness) : Section :=
  ⟨"liveness", [("poll_interval_secs", .integer liveness.pollSeconds.toNat),
    ("timeout_secs", .integer liveness.timeoutSeconds.toNat)]⟩

/-- The section of hidden screens. -/
def Screenshots.toSection (screenshots : Screenshots) : Section :=
  ⟨"screenshots", [("hide_for_groups", .texts screenshots.hiddenGroups),
    ("hide_for_teachers", .boolean screenshots.hidesTeachers)]⟩

/-- The section of address choice. -/
def Addresses.toSection (addresses : Addresses) : Section :=
  ⟨"addresses", [("check_client_addresses", .boolean addresses.checksClients)]⟩

/-- The section of wake packets. -/
def Waking.toSection (wake : Waking) : Section :=
  ⟨"wake_on_lan", [("blacklisted_interfaces", .texts wake.skippedInterfaces),
    ("blacklisted_interface_prefixes", .texts wake.skippedStarts),
    ("target_broadcast_ips", .texts wake.broadcastTargets)]⟩

/-- The sections of a configuration in their order. -/
def toSections (config : Config) : List Section :=
  [config.vnc.toSection, config.liveness.toSection, config.screenshots.toSection,
    config.addresses.toSection, config.waking.toSection]

/-- A configuration as data. -/
def toData (config : Config) : Data :=
  .record (config.toSections.map fun part =>
    (part.name, .record (part.settings.map fun (name, setting) => (name, setting.toData))))

/-- Reads the section of ports; absent fields keep their defaults. -/
def Vnc.ofData? (lists : ListLength) (data : Data) : Option Vnc := do
  let entries ← data.entries? lists ["port", "demo_port", "framebuffer_update_secs"]
  return {
    port := ← Data.optional entries "port" standard.port Data.uint16?
    demoPort := ← Data.optional entries "demo_port" standard.demoPort Data.uint16?
    frameSeconds :=
      ← Data.optional entries "framebuffer_update_secs" standard.frameSeconds Data.uint64? }

/-- Reads the section of checks; absent fields keep their defaults. -/
def Liveness.ofData? (lists : ListLength) (data : Data) : Option Liveness := do
  let entries ← data.entries? lists ["poll_interval_secs", "timeout_secs"]
  return {
    pollSeconds := ← Data.optional entries "poll_interval_secs" standard.pollSeconds Data.uint64?
    timeoutSeconds := ← Data.optional entries "timeout_secs" standard.timeoutSeconds Data.uint64? }

/-- Reads the section of hidden screens; absent fields keep their defaults. -/
def Screenshots.ofData? (lists : ListLength) (data : Data) : Option Screenshots := do
  let entries ← data.entries? lists ["hide_for_groups", "hide_for_teachers"]
  return {
    hiddenGroups := ← Data.optional entries "hide_for_groups" standard.hiddenGroups Data.texts?
    hidesTeachers :=
      ← Data.optional entries "hide_for_teachers" standard.hidesTeachers Data.boolean? }

/-- Reads the section of address choice; absent fields keep their defaults. -/
def Addresses.ofData? (lists : ListLength) (data : Data) : Option Addresses := do
  let entries ← data.entries? lists ["check_client_addresses"]
  return {
    checksClients :=
      ← Data.optional entries "check_client_addresses" standard.checksClients Data.boolean? }

/-- Reads the section of wake packets; absent fields keep their defaults. -/
def Waking.ofData? (lists : ListLength) (data : Data) : Option Waking := do
  let entries ← data.entries? lists
    ["blacklisted_interfaces", "blacklisted_interface_prefixes", "target_broadcast_ips"]
  return {
    skippedInterfaces :=
      ← Data.optional entries "blacklisted_interfaces" standard.skippedInterfaces Data.texts?
    skippedStarts :=
      ← Data.optional entries "blacklisted_interface_prefixes" standard.skippedStarts Data.texts?
    broadcastTargets :=
      ← Data.optional entries "target_broadcast_ips" standard.broadcastTargets Data.texts? }

/-- Reads a configuration; absent sections and fields keep their defaults. -/
def ofData? (lists : ListLength) (data : Data) : Option Config := do
  let entries ← data.entries? lists
    ["vnc", "liveness", "screenshots", "addresses", "wake_on_lan"]
  return {
    vnc := ← Data.optional entries "vnc" standard.vnc (Vnc.ofData? lists)
    liveness := ← Data.optional entries "liveness" standard.liveness (Liveness.ofData? lists)
    screenshots :=
      ← Data.optional entries "screenshots" standard.screenshots (Screenshots.ofData? lists)
    addresses := ← Data.optional entries "addresses" standard.addresses (Addresses.ofData? lists)
    waking := ← Data.optional entries "wake_on_lan" standard.waking (Waking.ofData? lists) }

end Config

end ComputerRoom
