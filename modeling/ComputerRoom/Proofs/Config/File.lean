import ComputerRoom.Proofs.Config.RoundTrip
import ComputerRoom.Proofs.FileTree.ReadBack
import ComputerRoom.Proofs.Toml.Integers

/-! A configuration that is saved at a path is what is loaded from there. -/

namespace ComputerRoom

open Toml (int64Bound)

namespace Data

/-- The fields of a record that fits are data that fits. -/
theorem Fits.entries? {data : Data} (fits : data.Fits) {lists : ListLength} {fields : List String}
    {entries : List (String × Data)} (found : data.entries? lists fields = some entries) :
    ∀ entry ∈ entries, entry.2.Fits := by
  -- A section may also be given as a list of its values, in the order of its fields.
  cases fits with
  | record each =>
    obtain rfl := Option.some.inj found
    exact each
  | list each =>
    obtain ⟨_, same⟩ := Option.ite_none_right_eq_some.mp found
    obtain rfl := Option.some.inj same
    intro entry member
    exact each entry.2 (List.of_mem_zip member).2
  | null | boolean | integer | fraction | text => contradiction

/-- What a field's fallback satisfies, and all that is read of data that fits, its value does. -/
theorem optional_holds {α : Type} (holds : α → Prop) {entries : List (String × Data)}
    (each : ∀ entry ∈ entries, entry.2.Fits) {read : Data → Option α}
    (reads : ∀ data value, data.Fits → read data = some value → holds value)
    {field : String} {fallback value : α} (absent : holds fallback)
    (found : optional entries field fallback read = some value) : holds value := by
  -- The field is absent, and the default is taken, or its entry is read.
  unfold optional at found
  split at found
  · obtain rfl := Option.some.inj found
    exact absent
  · rename_i data there
    obtain ⟨before, after, rfl, _⟩ := List.lookup_eq_some_iff.mp there
    exact reads data value (each (field, data) (by simp)) found

/-- An integer of sixty-four bits that fits as one with a sign is smaller by a bit. -/
theorem uint64?_lt {data : Data} {value : UInt64} (fits : data.Fits)
    (read : data.uint64? = some value) : value.toNat < int64Bound := by
  obtain ⟨number, sized, rfl⟩ := Option.map_eq_some_iff.mp read
  -- Only an integer is read as a number, and only one that is not negative.
  cases fits with
  | @integer whole within =>
    cases whole with
    | negSucc below => contradiction
    | ofNat size =>
      obtain ⟨short, same⟩ := Option.ite_none_right_eq_some.mp sized
      obtain rfl := Option.some.inj same
      have bound : size < int64Bound := by simpa [Toml.fitsInt64] using within
      rw [UInt64.toNat_ofNat_of_lt' short]
      exact bound
  | null | boolean | fraction | text | list | record => contradiction

end Data

namespace Config

/-- The refresh rate that is read from data that fits can be written. -/
theorem Vnc.frameSeconds_lt {data : Data} (fits : data.Fits) {lists : ListLength} {vnc : Vnc}
    (read : ofData? lists data = some vnc) : vnc.frameSeconds.toNat < int64Bound := by
  obtain ⟨entries, found, read⟩ := Option.bind_eq_some_iff.mp read
  obtain ⟨port, _, read⟩ := Option.bind_eq_some_iff.mp read
  obtain ⟨demoPort, _, read⟩ := Option.bind_eq_some_iff.mp read
  obtain ⟨frameSeconds, last, read⟩ := Option.bind_eq_some_iff.mp read
  obtain rfl := Option.some.inj read
  exact Data.optional_holds (UInt64.toNat · < int64Bound) (fits.entries? found)
    (fun _ _ => Data.uint64?_lt) (by decide) last

/-- The check interval and timeout that are read from data that fits can be written. -/
theorem Liveness.seconds_lt {data : Data} (fits : data.Fits) {lists : ListLength}
    {liveness : Liveness} (read : ofData? lists data = some liveness) :
    liveness.pollSeconds.toNat < int64Bound ∧ liveness.timeoutSeconds.toNat < int64Bound := by
  obtain ⟨entries, found, read⟩ := Option.bind_eq_some_iff.mp read
  obtain ⟨pollSeconds, poll, read⟩ := Option.bind_eq_some_iff.mp read
  obtain ⟨timeoutSeconds, timeout, read⟩ := Option.bind_eq_some_iff.mp read
  obtain rfl := Option.some.inj read
  have each := fits.entries? found
  exact ⟨Data.optional_holds (UInt64.toNat · < int64Bound) each (fun _ _ => Data.uint64?_lt)
      (by decide) poll,
    Data.optional_holds (UInt64.toNat · < int64Bound) each (fun _ _ => Data.uint64?_lt)
      (by decide) timeout⟩

/-- The integers of a configuration that is read from data that fits can be written. -/
theorem integers_lt_of_ofData? {data : Data} (fits : data.Fits) {lists : ListLength}
    {config : Config} (read : ofData? lists data = some config) :
    ∀ number ∈ config.integers, number < int64Bound := by
  obtain ⟨entries, found, read⟩ := Option.bind_eq_some_iff.mp read
  obtain ⟨vnc, ports, read⟩ := Option.bind_eq_some_iff.mp read
  obtain ⟨liveness, checks, read⟩ := Option.bind_eq_some_iff.mp read
  obtain ⟨screenshots, _, read⟩ := Option.bind_eq_some_iff.mp read
  obtain ⟨addresses, _, read⟩ := Option.bind_eq_some_iff.mp read
  obtain ⟨waking, _, read⟩ := Option.bind_eq_some_iff.mp read
  obtain rfl := Option.some.inj read
  have each := fits.entries? found
  have frames := Data.optional_holds (fun vnc : Vnc => vnc.frameSeconds.toNat < int64Bound) each
    (fun _ _ fits read => Vnc.frameSeconds_lt fits read) (by decide) ports
  have seconds := Data.optional_holds (fun liveness : Liveness =>
    liveness.pollSeconds.toNat < int64Bound ∧ liveness.timeoutSeconds.toNat < int64Bound) each
    (fun _ _ fits read => Liveness.seconds_lt fits read) (by decide) checks
  -- A port has sixteen bits only.
  have port := vnc.port.toNat_lt
  have demoPort := vnc.demoPort.toNat_lt
  have large : 65536 ≤ int64Bound := by decide
  simp only [integers, List.forall_mem_cons, List.not_mem_nil, false_implies, implies_true,
    and_true]
  exact ⟨by omega, by omega, frames, seconds.1, seconds.2⟩

/-- The integers of a configuration that was loaded can be written. -/
theorem integers_lt_of_load {tree : FileTree} {path : String} {config : Config}
    (loaded : load tree path = .ok config) : ∀ number ∈ config.integers, number < int64Bound := by
  -- Without a file the defaults are taken; a file that is there was read as a document.
  unfold load at loaded
  split at loaded
  · obtain rfl := Except.ok.inj loaded
    decide
  · contradiction
  · split at loaded
    · contradiction
    · split at loaded
      · contradiction
      · rename_i text _ config found
        obtain rfl := Except.ok.inj loaded
        obtain ⟨data, document, read⟩ := Option.bind_eq_some_iff.mp found
        exact integers_lt_of_ofData? (Toml.fits_of_document? document) read

/-- Whether a file can be written at a path, the folders on the way being made if need be. -/
def Writable (tree : FileTree) (path : String) : Prop :=
  ∃ made place, makeParent tree path = (.ok (), made) ∧ made.filePlace path = .ok place

/-- A text reads back from its octets. -/
theorem fromUTF8?_toUTF8 (text : String) : String.fromUTF8? text.toUTF8 = some text := by
  simp [String.fromUTF8?, String.fromUTF8, String.isValidUTF8]

/-- A configuration that can be written is loaded from wherever a file can be written. -/
theorem load_save {tree : FileTree} {path : String} (writable : Writable tree path)
    {config : Config} (small : ∀ number ∈ config.integers, number < int64Bound) :
    ∃ after, save tree path config = (.ok (), after) ∧ load after path = .ok config := by
  obtain ⟨made, place, parent, found⟩ := writable
  -- The configuration has a text, and the text is what the file then holds.
  obtain ⟨text, printed⟩ := config.exists_toText?_iff.mpr small
  have wrote : made.write path text.toUTF8 = .ok (made.put place (.file text.toUTF8)) := by
    simp [FileTree.write, found, bind, Except.bind, pure, Except.pure]
  refine ⟨made.put place (.file text.toUTF8), ?_, ?_⟩
  · simp only [save, parent, printed, wrote]
  · simp only [load, FileTree.read_write wrote, fromUTF8?_toUTF8 text, ofText?_toText? printed]

/--
Wherever a file can be written, every configuration whose integers fit sixty-three bits can be saved
and is loaded again as it was. Whatever was loaded from anywhere is such a configuration.
-/
theorem save_load_round_trip {tree : FileTree} {path : String} (writable : Writable tree path) :
    (∀ config : Config, (∀ number ∈ config.integers, number < 9223372036854775808) →
      ∃ after, save tree path config = (.ok (), after) ∧ load after path = .ok config) ∧
    ∀ (source : FileTree) (origin : String) (loaded : Config), load source origin = .ok loaded →
      ∃ after, save tree path loaded = (.ok (), after) ∧ load after path = .ok loaded :=
  ⟨fun _ small => load_save writable small,
    fun _ _ _ loaded => load_save writable (integers_lt_of_load loaded)⟩

/-- A configuration with the largest numbers, and with texts that need each of the forms. -/
def extreme : Config where
  vnc := ⟨65535, 0, 9223372036854775807⟩
  liveness := ⟨0, 9223372036854775807⟩
  screenshots := ⟨["", "plain", "\x27\"\"\"\\", "\t\r\n\x00",
    "\x27\x27\x27\n\"\"\"\"\"\"\n"], false⟩
  addresses := ⟨true⟩
  waking := ⟨[], ["\\"], ["\n\\", "\x27"]⟩

/-- In an empty tree, the folder of a file is made. -/
theorem save_load_round_trip_extreme : Writable .empty "room/settings.toml" ∧
    (∀ number ∈ extreme.integers, number < 9223372036854775808) ∧
    ∃ after, save .empty "room/settings.toml" extreme = (.ok (), after) ∧
      load after "room/settings.toml" = .ok extreme := by
  have writable : Writable .empty "room/settings.toml" := ⟨_, _, rfl, rfl⟩
  have small : ∀ number ∈ extreme.integers, number < 9223372036854775808 := by decide
  exact ⟨writable, small, (save_load_round_trip writable).1 extreme small⟩

end Config

end ComputerRoom
