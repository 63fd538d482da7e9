import ComputerRoom.Data
import ComputerRoom.Directory.Record
import ComputerRoom.HardwareAddress
import ComputerRoom.Connection

/-! How directory records, flags and hardware addresses are read from data and written to it. -/

namespace ComputerRoom

/-- Reads a room. -/
def RoomListing.ofData? (data : Data) : Option RoomListing := do
  let entries ← data.entries? .exact ["id", "name", "member_machine_ids"]
  return {
    id := ← Data.required entries "id" Data.text?
    name := ← Data.required entries "name" Data.text?
    memberIds := ← Data.required entries "member_machine_ids" Data.texts? }

/-- Writes a room. -/
def RoomListing.toData (room : RoomListing) : Data :=
  .record [("id", .text room.id), ("name", .text room.name),
    ("member_machine_ids", .ofTexts room.memberIds)]

/-- Reads a platform. -/
def Platform.ofData? (data : Data) : Option Platform :=
  data.choice?.bind Platform.ofName?

/-- Writes a platform. -/
def Platform.toData (platform : Platform) : Data :=
  .text platform.name

/-- Reads a machine, whose description alone may be absent. -/
def Machine.ofData? (data : Data) : Option Machine := do
  let entries ← data.entries? .exact ["id", "name", "ips", "macs", "description", "kind"]
  return {
    id := ← Data.required entries "id" Data.text?
    name := ← Data.required entries "name" Data.text?
    ips := ← Data.required entries "ips" Data.texts?
    macs := ← Data.required entries "macs" Data.texts?
    description := ← Data.optional entries "description" none (Data.nullable Data.text?)
    platform := ← Data.required entries "kind" Platform.ofData? }

/-- Writes a machine. -/
def Machine.toData (machine : Machine) : Data :=
  .record [("id", .text machine.id), ("name", .text machine.name), ("ips", .ofTexts machine.ips),
    ("macs", .ofTexts machine.macs), ("description", .ofText? machine.description),
    ("kind", machine.platform.toData)]

/-- Reads an account. -/
def Account.ofData? (data : Data) : Option Account := do
  let entries ← data.entries? .exact ["id", "username", "is_teacher", "group_ids"]
  return {
    id := ← Data.required entries "id" Data.text?
    username := ← Data.required entries "username" Data.text?
    isTeacher := ← Data.required entries "is_teacher" Data.boolean?
    groupIds := ← Data.required entries "group_ids" Data.texts? }

/-- Writes an account. -/
def Account.toData (account : Account) : Data :=
  .record [("id", .text account.id), ("username", .text account.username),
    ("is_teacher", .boolean account.isTeacher), ("group_ids", .ofTexts account.groupIds)]

/-- Reads a flag by its tag. -/
def Flag.ofData? (data : Data) : Option Flag :=
  data.choice?.bind Flag.ofTag?

/-- Writes a flag by its tag. -/
def Flag.toData (flag : Flag) : Data :=
  .text flag.tag

/-- Reads a mask of flags from a number of 32 bits. -/
def FlagMask.ofData? (data : Data) : Option FlagMask :=
  (data.below? 4294967296).map FlagMask.ofNat

/-- Writes a mask of flags as a number. -/
def FlagMask.toData (mask : FlagMask) : Data :=
  .integer mask.toNat

/-- Reads a connection state by its name. -/
def Connection.ofData? (data : Data) : Option Connection :=
  data.choice?.bind Connection.ofName?

/-- Reads a hardware address from a list of its six octets. -/
def HardwareAddress.ofData? (data : Data) : Option HardwareAddress := do
  let octets ← data.listOf? fun item => (item.below? 256).map UInt8.ofNat
  if six : octets.length = 6 then return ⟨octets, six⟩ else none

/-- Writes a hardware address as a list of its six octets. -/
def HardwareAddress.toData (address : HardwareAddress) : Data :=
  .list (address.octets.map fun octet => .integer octet.toNat)

end ComputerRoom
