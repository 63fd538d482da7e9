import ComputerRoom.Flag
import ComputerRoom.Tracked

/-! Masks of state flags, and the flips between one report and the next. -/

namespace ComputerRoom

/-- A state report: one bit for each flag, and 25 bits without a name. -/
structure FlagMask where
  bits : BitVec 32
  deriving Repr, DecidableEq

namespace FlagMask

/-- The mask without any bit. -/
def empty : FlagMask := ⟨0#32⟩

/-- The mask with the bits of a number. -/
def ofNat (number : Nat) : FlagMask := ⟨BitVec.ofNat 32 number⟩

/-- The mask as a number. -/
def toNat (mask : FlagMask) : Nat := mask.bits.toNat

/-- Whether the bit of a flag is set. -/
def contains (mask : FlagMask) (flag : Flag) : Bool :=
  mask.bits.getLsbD flag.index

/-- The mask with the bit of one flag put to a value. -/
def put (mask : FlagMask) (flag : Flag) (value : Bool) : FlagMask :=
  let bit := BitVec.twoPow 32 flag.index
  ⟨if value then mask.bits ||| bit else mask.bits &&& ~~~bit⟩

/-- The flags that are set, in the order of their bits. -/
def flags (mask : FlagMask) : List Flag :=
  Flag.all.filter mask.contains

/-- The named flags that differ from the previous report, each with its new value. -/
def flipsSince (mask : FlagMask) (previous : Option FlagMask) : List (Flag × Bool) :=
  -- Without a previous report every flag counts as having been clear.
  let before := previous.getD empty
  (Flag.all.filter fun flag => mask.contains flag != before.contains flag).map fun flag =>
    (flag, mask.contains flag)

end FlagMask

/-- Takes a report into the cell that holds the last one, and tells what flipped. -/
def Tracked.report (cell : Tracked (Option FlagMask)) (mask : FlagMask) :
    List (Flag × Bool) × Tracked (Option FlagMask) :=
  (mask.flipsSince cell.current, cell.set (some mask))

end ComputerRoom
