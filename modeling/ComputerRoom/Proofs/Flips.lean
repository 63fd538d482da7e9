import ComputerRoom.FlagMask
import ComputerRoom.Proofs.Tracking

/-!
Reports of flags, taken one after the other: what is told of each report are the flags that it has
other than the report before, so that everything told since the last reset makes up the last report.
-/

namespace ComputerRoom

namespace Flag

/-- Every flag has a bit in a report. -/
theorem index_lt (flag : Flag) : flag.index < 32 := by
  -- There are seven flags, and 32 bits.
  cases flag <;> decide

/-- No two flags share a bit. -/
theorem index_inj {flag other : Flag} : flag.index = other.index ↔ flag = other := by
  constructor
  · cases flag <;> cases other <;> simp [index]
  · exact congrArg index

/-- Every flag is among all of them. -/
theorem mem_all (flag : Flag) : flag ∈ all := by
  cases flag <;> decide

/-- All flags come in the order of their bits. -/
theorem all_ascending : all.Pairwise (·.index < ·.index) := by
  decide

end Flag

/-- What a flip tells of a flag, if it is about that flag. -/
def Flag.told? (flag : Flag) (flip : Flag × Bool) : Option Bool :=
  if flip.1 = flag then some flip.2 else none

namespace FlagMask

variable {mask : FlagMask} {flag : Flag}

/-- The mask after some flips, each of which puts its flag to its value. -/
def putAll (mask : FlagMask) (flips : List (Flag × Bool)) : FlagMask :=
  flips.foldl (fun mask flip => mask.put flip.1 flip.2) mask

/-- The flips of two lists are put one list after the other. -/
theorem putAll_append (mask : FlagMask) (early late : List (Flag × Bool)) :
    mask.putAll (early ++ late) = (mask.putAll early).putAll late :=
  List.foldl_append

/-- Putting a flag changes its own bit alone. -/
theorem getLsbD_put (mask : FlagMask) (flag : Flag) (value : Bool) (place : Nat) :
    (mask.put flag value).bits.getLsbD place =
      if flag.index = place then value else mask.bits.getLsbD place := by
  by_cases own : flag.index = place
  · subst own
    cases value <;> simp [put, flag.index_lt]
  · -- The bit of any other place is the one that the flag's own bit is not.
    have apart : place ≠ flag.index := Ne.symm own
    by_cases within : place < 32
    · cases value <;> simp [put, own, apart, within]
    · have beyond := mask.bits.getLsbD_of_ge place (by omega)
      cases value <;> simp [put, own, within, beyond]

/-- Putting a flag changes that flag alone. -/
theorem contains_put (mask : FlagMask) (flag other : Flag) (value : Bool) :
    (mask.put flag value).contains other = if flag = other then value else mask.contains other := by
  -- The bits of two flags are two bits.
  simp only [contains, getLsbD_put, Flag.index_inj]

/-- Flips put a flag as the last of them that is about it. -/
theorem contains_putAll (mask : FlagMask) (flips : List (Flag × Bool)) (flag : Flag) :
    (mask.putAll flips).contains flag =
      (flips.filterMap flag.told?).getLast?.getD (mask.contains flag) := by
  -- The first flip sets what the flag is if no later one is about it.
  induction flips generalizing mask with
  | nil => rfl
  | cons flip rest ih =>
    have next := ih (mask.put flip.1 flip.2)
    rw [contains_put] at next
    rw [putAll, List.foldl_cons]
    refine next.trans ?_
    by_cases about : flip.1 = flag
    · simp [about, Flag.told?, List.getLast?_cons]
    · simp [about, Flag.told?]

/-- Flips leave the places alone that are no flag's. -/
theorem getLsbD_putAll (mask : FlagMask) (flips : List (Flag × Bool)) {place : Nat}
    (unnamed : ∀ flag : Flag, flag.index ≠ place) :
    (mask.putAll flips).bits.getLsbD place = mask.bits.getLsbD place := by
  -- Every flip puts the bit of a flag.
  induction flips generalizing mask with
  | nil => rfl
  | cons flip rest ih =>
    rw [putAll, List.foldl_cons]
    refine (ih (mask.put flip.1 flip.2)).trans ?_
    rw [getLsbD_put, if_neg (unnamed flip.1)]

/-- A report tells of a flag once if it has it other than before, and does not tell of it else. -/
theorem filterMap_flipsSince (mask : FlagMask) (previous : Option FlagMask) (flag : Flag) :
    (mask.flipsSince previous).filterMap flag.told? =
      if (previous.getD empty).contains flag = mask.contains flag then []
      else [mask.contains flag] := by
  -- Each flag is looked at once, so that one flip at most is about this one.
  have alone : ∀ flip : Option Bool,
      Flag.all.filterMap (fun other => if other = flag then flip else none) = flip.toList := by
    intro flip
    cases flag <;> cases flip <;> rfl
  let flipped := mask.contains flag != (previous.getD empty).contains flag
  -- What a flip says of this flag: its own flip everything, and the others nothing.
  have about : (fun other : Flag =>
      if mask.contains other != (previous.getD empty).contains other then
        flag.told? (other, mask.contains other) else none) = fun other =>
      if other = flag then (if flipped then some (mask.contains flag) else none) else none := by
    funext other
    by_cases same : other = flag
    · simp [same, flipped, Flag.told?]
    · simp [same, Flag.told?]
  calc (mask.flipsSince previous).filterMap flag.told?
      = Flag.all.filterMap fun other =>
          if mask.contains other != (previous.getD empty).contains other then
            flag.told? (other, mask.contains other) else none := by
        simp only [flipsSince, List.filterMap_map, List.filterMap_filter]
        rfl
    _ = (if flipped then some (mask.contains flag) else none).toList := by rw [about, alone]
    _ = _ := by
        by_cases same : (previous.getD empty).contains flag = mask.contains flag
        · simp [flipped, same]
        · simp [flipped, Ne.symm same, same]

/-- A report tells of flags in the order of their bits. -/
theorem flipsSince_ascending (mask : FlagMask) (previous : Option FlagMask) :
    (mask.flipsSince previous).Pairwise (·.1.index < ·.1.index) := by
  -- They are taken out of all flags, in their order.
  refine List.pairwise_map.mpr ?_
  exact Flag.all_ascending.sublist List.filter_sublist

/-- A report tells of flags what it has them as. -/
theorem flipsSince_value {previous : Option FlagMask} {flip : Flag × Bool}
    (told : flip ∈ mask.flipsSince previous) : flip.2 = mask.contains flip.1 := by
  -- The value of a flip is read off the report.
  obtain ⟨flag, _, rfl⟩ := List.mem_map.mp told
  rfl

/-- A report tells nothing exactly if it has every flag as before. -/
theorem flipsSince_eq_nil_iff {previous : Option FlagMask} :
    mask.flipsSince previous = [] ↔
      ∀ flag, mask.contains flag = (previous.getD empty).contains flag := by
  -- All flags are looked at, so that a flag that differs would be told.
  simp [flipsSince, List.filter_eq_nil_iff, Flag.mem_all]

end FlagMask

namespace Tracked

variable {cell : Tracked (Option FlagMask)}

/-- Takes a report, or forgets all reports, and tells what flipped. -/
def takeEntry (cell : Tracked (Option FlagMask)) :
    Option FlagMask → List (Flag × Bool) × Tracked (Option FlagMask)
  | some mask => cell.report mask
  | none => ([], cell.reset none)

/-- Takes reports and resets one after the other, and tells everything that flipped. -/
def takeEntries (cell : Tracked (Option FlagMask)) :
    List (Option FlagMask) → List (Flag × Bool) × Tracked (Option FlagMask)
  | [] => ([], cell)
  | entry :: rest =>
    let (flips, next) := cell.takeEntry entry
    let (later, last) := next.takeEntries rest
    (flips ++ later, last)

/-- A report is what the cell holds from then on. -/
@[simp] theorem report_current (cell : Tracked (Option FlagMask)) (report : FlagMask) :
    (cell.report report).2.current = some report :=
  set_current cell (some report)

/-- An entry is what the cell holds from then on. -/
@[simp] theorem takeEntry_current (cell : Tracked (Option FlagMask)) (entry : Option FlagMask) :
    (cell.takeEntry entry).2.current = entry := by
  cases entry with
  | none => rfl
  | some mask => exact report_current cell mask

/-- The last entry is what the cell holds in the end. -/
theorem takeEntries_current (cell : Tracked (Option FlagMask)) (entries : List (Option FlagMask)) :
    (cell.takeEntries entries).2.current = entries.getLast?.getD cell.current := by
  -- Each entry takes the place of the one before it.
  induction entries generalizing cell with
  | nil => rfl
  | cons entry rest ih => simp [takeEntries, ih, List.getLast?_cons]

/-- What the first of some reports flips is told before what the others flip. -/
theorem takeEntries_report (cell : Tracked (Option FlagMask)) (report : FlagMask)
    (rest : List FlagMask) :
    (cell.takeEntries ((report :: rest).map some)).1 = report.flipsSince cell.current ++
      ((cell.report report).2.takeEntries (rest.map some)).1 := rfl

/-- The flips of some reports lead from the flags before the first to those of the last. -/
theorem contains_putAll_takeEntries (reports : List FlagMask) {shown : FlagMask} {flag : Flag}
    (known : shown.contains flag = (cell.current.getD .empty).contains flag) :
    (shown.putAll (cell.takeEntries (reports.map some)).1).contains flag =
      (reports.getLast?.getD (cell.current.getD .empty)).contains flag := by
  -- What is shown agrees with the cell before each report, and so it does after it.
  induction reports generalizing cell shown with
  | nil => exact known
  | cons report rest ih =>
    rw [takeEntries_report, FlagMask.putAll_append]
    -- The flips of the first report make up its own flags.
    have first : (shown.putAll (report.flipsSince cell.current)).contains flag =
        report.contains flag := by
      rw [FlagMask.contains_putAll, FlagMask.filterMap_flipsSince, ← known]
      split
      · assumption
      · rfl
    have later := @ih (cell.report report).2 (shown.putAll (report.flipsSince cell.current))
      (by simpa using first)
    simpa [List.getLast?_cons] using later

/-- Of each flag, the reports tell by turns that it is set and that it is clear. -/
theorem takeEntries_alternate (cell : Tracked (Option FlagMask)) (reports : List FlagMask)
    (flag : Flag) :
    ((cell.current.getD .empty).contains flag ::
      (cell.takeEntries (reports.map some)).1.filterMap flag.told?).IsChain (· ≠ ·) := by
  -- What was told last is always whether the flag is set at present.
  induction reports generalizing cell with
  | nil => simp [takeEntries]
  | cons report rest ih =>
    have next := ih (cell.report report).2
    rw [report_current, Option.getD_some] at next
    rw [takeEntries_report, List.filterMap_append, FlagMask.filterMap_flipsSince]
    split
    · rename_i same
      rwa [same, List.nil_append]
    · rename_i flipped
      exact List.isChain_cons_cons.mpr ⟨flipped, next⟩

/--
Take any reports since the last reset, or since the beginning, whatever there was before. Putting
every flip that they tell, out of no flags at all, makes up just the named bits of the last report.
Of each flag they tell by turns that it is set and that it is clear, and that it is set first. Each
report tells of flags in the order of their bits, of each at most once, and as it has it itself. It
tells nothing exactly if it has every flag as the report before, whatever its other bits are.
-/
theorem flips_since_reset {earlier : List (Option FlagMask)}
    (reset : ∀ entry ∈ earlier.getLast?, entry = none) (reports : List FlagMask) :
    let cell := ((start none).takeEntries earlier).2
    let told := (cell.takeEntries (reports.map some)).1
    (∀ place, (FlagMask.empty.putAll told).bits.getLsbD place = true ↔
      ∃ flag : Flag, flag.index = place ∧
        (reports.getLast?.getD .empty).contains flag = true) ∧
      (∀ flag : Flag, (false :: told.filterMap flag.told?).IsChain (· ≠ ·)) ∧
      ∀ early report late, reports = early ++ report :: late →
        let previous := early.getLast?.getD .empty
        let flips := ((cell.takeEntries (early.map some)).2.report report).1
        flips.Pairwise (·.1.index < ·.1.index) ∧
          (∀ flip ∈ flips, flip.2 = report.contains flip.1) ∧
          (flips = [] ↔ ∀ flag, report.contains flag = previous.contains flag) := by
  intro cell told
  -- The cell holds no report at first.
  have clear : cell.current = none := by
    rw [takeEntries_current]
    cases last : earlier.getLast? with
    | none => rfl
    | some entry => exact reset entry last
  refine ⟨fun place => ?_, fun flag => ?_, ?_⟩
  · -- Flag by flag, what the flips make up is the last report.
    have shows : ∀ flag : Flag, (FlagMask.empty.putAll told).contains flag =
        (reports.getLast?.getD .empty).contains flag := by
      intro flag
      have leads := @contains_putAll_takeEntries cell reports .empty flag (by simp [clear])
      rwa [clear] at leads
    constructor
    · intro set
      by_cases named : ∃ flag : Flag, flag.index = place
      · obtain ⟨flag, rfl⟩ := named
        exact ⟨flag, rfl, (shows flag).symm.trans set⟩
      · -- A place that is no flag's is left as clear as it was.
        rw [FlagMask.getLsbD_putAll _ _ (not_exists.mp named)] at set
        simp [FlagMask.empty] at set
    · rintro ⟨flag, rfl, set⟩
      exact (shows flag).trans set
  · -- At first every flag counts as clear.
    have turns := takeEntries_alternate cell reports flag
    have unset : (cell.current.getD .empty).contains flag = false := by
      simp [clear, FlagMask.contains, FlagMask.empty]
    rwa [unset] at turns
  · rintro early report late rfl previous flips
    -- Before a report, the cell holds the one before it.
    have before : (cell.takeEntries (early.map some)).2.current = early.getLast? := by
      rw [takeEntries_current, clear, List.getLast?_map]
      cases early.getLast? <;> rfl
    have told : flips = report.flipsSince early.getLast? := congrArg report.flipsSince before
    rw [told]
    exact ⟨report.flipsSince_ascending _, fun _ => FlagMask.flipsSince_value,
      FlagMask.flipsSince_eq_nil_iff⟩

/-- The second of three reports after a reset has other bits without a name alone, and is silent. -/
theorem flips_since_reset_unnamed :
    let earlier : List (Option FlagMask) := [some (.ofNat 0b1000), none]
    let reports : List FlagMask := [.ofNat 0b1001, .ofNat 0b110001001, .ofNat 0b100001000]
    let cell := ((start none).takeEntries earlier).2
    let told := (cell.takeEntries (reports.map some)).1
    (∀ entry ∈ earlier.getLast?, entry = none) ∧
      told = [(.accessDialog, true), (.screenLock, true), (.accessDialog, false)] ∧
      FlagMask.empty.putAll told = .ofNat 0b1000 ∧
      (false :: told.filterMap (Flag.told? .accessDialog)).IsChain (· ≠ ·) ∧
      ((cell.takeEntries [some (.ofNat 0b1001)]).2.report (.ofNat 0b110001001)).1 = [] := by
  intro earlier reports cell told
  have reset : ∀ entry ∈ earlier.getLast?, entry = none := by decide
  obtain ⟨_, turns, each⟩ := flips_since_reset reset reports
  obtain ⟨_, _, silent⟩ := each [.ofNat 0b1001] (.ofNat 0b110001001) [.ofNat 0b100001000] rfl
  refine ⟨reset, by decide, by decide, turns .accessDialog, silent.mpr fun flag => ?_⟩
  -- No flag has a bit above the seventh.
  cases flag <;> decide

end Tracked

end ComputerRoom
