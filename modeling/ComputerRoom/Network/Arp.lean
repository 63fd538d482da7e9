import ComputerRoom.Text.Blank
import ComputerRoom.Text.LowerCase

/-! Looking up a hardware address in the table of resolved addresses. -/

namespace ComputerRoom.Arp

/-- The hardware address that marks an entry as not resolved. -/
def unresolved : List Char := "00:00:00:00:00:00".toList

/-- The hardware address in a line that resolves `ip`: its fourth field, if its first is `ip`. -/
def resolved? (ip : List Char) (line : List Char) : Option (List Char) :=
  match Text.fields line with
  | address :: _ :: _ :: mac :: _ => if address == ip && mac != unresolved then some mac else none
  | _ => none

/-- The first hardware address that a table gives for `ip` below its heading, in lower case. -/
def lookup? (table ip : String) : Option String :=
  let found := ((Text.lines table.toList).drop 1).findSome? (resolved? ip.toList)
  found.map fun mac => String.ofList (Text.lowered mac)

end ComputerRoom.Arp
