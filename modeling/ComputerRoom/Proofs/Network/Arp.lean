import ComputerRoom.Network.Arp
import ComputerRoom.Proofs.Text.Layout
import Mathlib.Data.List.Forall2

/-! The table of resolved addresses is read line by line: unresolved entries are passed over. -/

namespace ComputerRoom.Arp

open Text (Written Rows Skims Enlarged)

/-- What a line of the table tells: an address, and the hardware address that it resolves to. -/
structure Entry where
  address : String
  kind : String
  flags : String
  mac : String
  others : List String

/-- The fields of an entry in their order. -/
def Entry.fields (entry : Entry) : List (List Char) :=
  (entry.address :: entry.kind :: entry.flags :: entry.mac :: entry.others).map String.toList

/-- Whether an entry is for `ip` and resolves it: zeros stand for an answer that never came. -/
def Entry.resolves (ip : String) (entry : Entry) : Bool :=
  entry.address == ip && entry.mac != "00:00:00:00:00:00"

/-- A line that does not resolve `ip`. -/
inductive Idle (ip : String) (line : List Char) : Prop where
  | short {fields : List (List Char)} (written : Written fields line) (few : fields.length < 4)
  | elsewhere {entry : Entry} (written : Written entry.fields line) (other : entry.address ≠ ip)
  | incomplete {entry : Entry} (written : Written entry.fields line)
    (zeros : entry.mac = "00:00:00:00:00:00")

variable {ip : String} {line : List Char} {entry : Entry}

/-- Strings are compared by their characters. -/
theorem beq_toList (left right : String) : (left.toList == right.toList) = (left == right) := by
  rw [Bool.eq_iff_iff, beq_iff_eq, beq_iff_eq, String.toList_inj]

/-- From the line of an entry, the hardware address is read if the entry resolves the address. -/
theorem resolved?_written (written : Written entry.fields line) :
    resolved? ip.toList line =
      if entry.resolves ip then some entry.mac.toList else none := by
  have same : (entry.address.toList == ip.toList && entry.mac.toList != unresolved) =
      entry.resolves ip := by
    have zeros : unresolved = "00:00:00:00:00:00".toList := rfl
    rw [zeros, bne, beq_toList, beq_toList, Entry.resolves, bne]
  rw [resolved?, written.fields_eq, Entry.fields, List.map_cons, List.map_cons, List.map_cons,
    List.map_cons, ← same]

/-- Nothing is read from a line that does not resolve the address. -/
theorem resolved?_idle (idle : Idle ip line) : resolved? ip.toList line = none := by
  cases idle with
  | @short fields written few =>
    -- Four fields would be needed to reach the hardware address.
    rw [resolved?, written.fields_eq]
    match fields, few with
    | [], _ | [_], _ | [_, _], _ | [_, _, _], _ => rfl
  | elsewhere written other => simp [resolved?_written written, Entry.resolves, other]
  | incomplete written zeros => simp [resolved?_written written, Entry.resolves, zeros]

/-- Neither the ending of a line nor an empty line at the end of the table matters. -/
theorem skims_resolved? (ip : List Char) : Skims (resolved? ip) where
  ending line := by rw [resolved?, Text.fields_return, resolved?]
  empty := rfl

/-- The lines of entries are searched for the first entry that resolves the address. -/
theorem findSome?_written {entries : List Entry} {lines : List (List Char)}
    (written : List.Forall₂ (fun entry line => Written entry.fields line) entries lines) :
    lines.findSome? (resolved? ip.toList) =
      (entries.find? (Entry.resolves ip)).map fun entry => entry.mac.toList := by
  induction written with
  | nil => rfl
  | @cons entry line _ _ first _ ih =>
    rw [List.findSome?_cons, List.find?_cons, resolved?_written first]
    cases entry.resolves ip with
    | true => rfl
    | false => exact ih

/-- What is found in a table is found in its lines below the heading. -/
theorem lookup?_rows {heading : List Char} {lines : List (List Char)} {table : String}
    (rows : Rows (heading :: lines) table.toList) (ip : String) :
    lookup? table ip =
      (lines.findSome? (resolved? ip.toList)).map fun mac => String.ofList (Text.lowered mac) := by
  rw [lookup?, rows.findSome?_below (skims_resolved? ip.toList)]

/--
A table gives for an address the hardware address, in lower case, of the first entry that resolves
it, and nothing if no entry does, however fields and lines are laid out. Lines that do not resolve
the address may stand anywhere below the heading, and the heading itself is never looked at.
-/
theorem lookup?_first_resolved (ip : String) :
    (∀ {heading : List Char} {lines : List (List Char)} {entries : List Entry} {table : String},
      List.Forall₂ (fun entry line => Written entry.fields line) entries lines →
      Rows (heading :: lines) table.toList →
      lookup? table ip =
        (entries.find? (Entry.resolves ip)).map fun entry => Text.lower entry.mac) ∧
    ∀ {heading heading' : List Char} {lines more : List (List Char)} {table table' : String},
      Rows (heading :: lines) table.toList → Rows (heading' :: more) table'.toList →
      Enlarged (Idle ip) lines more → lookup? table' ip = lookup? table ip := by
  constructor
  · intro heading lines entries table written rows
    rw [lookup?_rows rows, findSome?_written written, Option.map_map]
    rfl
  · intro heading heading' lines more table table' rows rows' enlarged
    rw [lookup?_rows rows, lookup?_rows rows']
    exact congrArg _ (enlarged.findSome?_eq fun line idle => resolved?_idle idle)

/--
An address comes twice, first without an answer, and a line too short for an entry is inserted
between. Gaps are of any blanks, and the last line has no ending.
-/
theorem lookup?_first_resolved_repeated :
    let heading := "IP address       HW type     Flags".toList
    let silent : Entry := ⟨"10.0.0.11", "0x1", "0x0", "00:00:00:00:00:00", ["*"]⟩
    let found : Entry := ⟨"10.0.0.11", "0x1", "0x2", "52:54:00:AB:CD:01", []⟩
    let first := "10.0.0.11".toList ++ "  ".toList ++ ("0x1".toList ++ "\t".toList ++
      ("0x0".toList ++ " ".toList ++ ("00:00:00:00:00:00".toList ++ "\r".toList ++ "*".toList)))
    let second := " ".toList ++ ("10.0.0.11".toList ++ " ".toList ++ ("0x1".toList ++ " ".toList ++
      ("0x2".toList ++ " ".toList ++ "52:54:00:AB:CD:01".toList)))
    let short := "10.0.0.11".toList ++ " ".toList ++ "52:54:00:ab:cd:02".toList
    let table := String.ofList (heading ++ ['\n'] ++ (first ++ ['\r', '\n'] ++ second))
    let table' := String.ofList
      (first ++ ['\n'] ++ (first ++ ['\n'] ++ (short ++ ['\r', '\n'] ++ second)))
    List.Forall₂ (fun entry line => Written entry.fields line) [silent, found] [first, second] ∧
    Rows [heading, first, second] table.toList ∧
    Rows [first, first, short, second] table'.toList ∧
    Enlarged (Idle "10.0.0.11") [first, second] [first, short, second] ∧
    lookup? table "10.0.0.11" = some "52:54:00:ab:cd:01" ∧
    lookup? table' "10.0.0.11" = some "52:54:00:ab:cd:01" := by
  intro heading silent found first second short table table'
  -- Each line is written out field by field, with the gaps that it has above.
  have written : Written silent.fields first :=
    .more (by decide) ⟨by decide, by decide⟩ (by decide) <|
    .more (by decide) ⟨by decide, by decide⟩ (by decide) <|
    .more (by decide) ⟨by decide, by decide⟩ (by decide) <|
    .more (by decide) ⟨by decide, by decide⟩ (by decide) <|
    .last (by decide)
  have written' : Written found.fields second :=
    .behind ⟨by decide, by decide⟩ <|
    .more (by decide) ⟨by decide, by decide⟩ (by decide) <|
    .more (by decide) ⟨by decide, by decide⟩ (by decide) <|
    .more (by decide) ⟨by decide, by decide⟩ (by decide) <|
    .last (by decide)
  have idle : Idle "10.0.0.11" short :=
    .short (.more (by decide) ⟨by decide, by decide⟩ (by decide) (.last (by decide))) (by decide)
  have each : List.Forall₂ (fun entry line => Written entry.fields line) [silent, found]
      [first, second] := .cons written (.cons written' .nil)
  have rows : Rows [heading, first, second] table.toList := by
    rw [String.toList_ofList]
    exact .more (by decide) .feed (.more (by decide) .returnFeed (.last (by decide)))
  have rows' : Rows [first, first, short, second] table'.toList := by
    rw [String.toList_ofList]
    exact .more (by decide) .feed (.more (by decide) .feed
      (.more (by decide) .returnFeed (.last (by decide))))
  have enlarged : Enlarged (Idle "10.0.0.11") [first, second] [first, short, second] :=
    .keep first (.insert idle (.keep second .nothing))
  -- The second table differs from the first in its heading and in a line that is idle.
  obtain ⟨tells, ignores⟩ := lookup?_first_resolved "10.0.0.11"
  have answer : lookup? table "10.0.0.11" = some "52:54:00:ab:cd:01" := by
    rw [tells each rows]
    decide +kernel
  exact ⟨each, rows, rows', enlarged, answer, (ignores rows rows' enlarged).trans answer⟩

end ComputerRoom.Arp
