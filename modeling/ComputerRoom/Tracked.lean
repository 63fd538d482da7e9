/-! A value that remembers whether it changed since it was last asked. -/

namespace ComputerRoom

/-- A current value, the value it took over from, and whether a change is still unreported. -/
structure Tracked (α : Type) where
  old : α
  current : α
  changed : Bool
  deriving Repr, DecidableEq

namespace Tracked

variable {α : Type}

/-- A value to start from, with no change to report. -/
def start (value : α) : Tracked α :=
  ⟨value, value, false⟩

/-- Stores a value, whether or not it differs from the current one. -/
def force (cell : Tracked α) (value : α) : Tracked α :=
  ⟨cell.current, value, true⟩

/-- Stores a value if it differs from the current one. -/
def set [BEq α] (cell : Tracked α) (value : α) : Tracked α :=
  if value != cell.current then cell.force value else cell

/-- Starts over from a value, forgetting any unreported change. -/
def reset (_cell : Tracked α) (value : α) : Tracked α :=
  start value

/-- Whether there is a change to report. -/
def pending [BEq α] (cell : Tracked α) : Bool :=
  cell.changed || cell.old != cell.current

/-- The cell once its change has been reported. -/
def settle (cell : Tracked α) : Tracked α :=
  start cell.current

/-- Reports whether there was a change, and settles the cell. -/
def poll [BEq α] (cell : Tracked α) : Bool × Tracked α :=
  (cell.pending, cell.settle)

end Tracked

end ComputerRoom
