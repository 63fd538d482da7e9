import ComputerRoom.Proofs.Flips
import ComputerRoom.Proofs.Room.Orders

/-! The flags that a machine would report are those that the commands it was sent last put so. -/

namespace ComputerRoom

namespace Command

/-- The flag that a command puts to a value on the machine it is sent to, if it puts any. -/
def mark? : Command → Option (Flag × Bool)
  | .lockScreen => some (.screenLock, true)
  | .unlockScreen => some (.screenLock, false)
  | .lockInput => some (.inputLock, true)
  | .unlockInput => some (.inputLock, false)
  | .displayMessage _ _ => some (.messageBox, true)
  | .startDemoServer _ _ => some (.demoServer, true)
  | .stopDemoServer => some (.demoServer, false)
  | .startDemo _ _ _ => some (.demoClient, true)
  | .stopDemo => some (.demoClient, false)
  | _ => none

end Command

namespace Agent

/-- A command puts its own flag and leaves all others. -/
theorem contains_maskAfter (mask : FlagMask) (flag : Flag) (command : Command) :
    (maskAfter mask command).contains flag = match command.mark? with
      | some (other, value) => if other = flag then value else mask.contains flag
      | none => mask.contains flag := by
  -- Every command puts one flag at most.
  cases command <;> first | rfl | exact mask.contains_put _ flag _

/-- A command that puts no flag changes nothing. -/
theorem maskAfter_of_admits (mask : FlagMask) {command : Command} (admits : command.admits = true) :
    maskAfter mask command = mask := by
  cases command <;> first | rfl | cases admits

/-- The flags of a machine go by the commands among what was done to it. -/
theorem observe_mask (agent : Agent) (effects : List Effect) :
    (effects.foldl observe agent).mask =
      (effects.filterMap (·.command?)).foldl maskAfter agent.mask := by
  -- What is no command, such as a connection, leaves the flags alone.
  induction effects generalizing agent with
  | nil => rfl
  | cons effect rest ih =>
    rw [List.foldl_cons, ih]
    cases effect <;> rfl

/-- Commands about viewers leave the flags of a machine alone. -/
theorem foldl_filter_admits (mask : FlagMask) (commands : List Command) :
    (commands.filter (!·.admits)).foldl maskAfter mask = commands.foldl maskAfter mask := by
  -- A command about viewers may be left out wherever it stands.
  induction commands generalizing mask with
  | nil => rfl
  | cons command rest ih =>
    cases admits : command.admits with
    | false => simp [admits, ih]
    | true => simp [admits, ih, maskAfter_of_admits mask admits]

/-- A flag that no command sets is shown after them if it was before and no command clears it. -/
theorem contains_foldl_of_unset {flag : Flag} {commands : List Command}
    (unset : ∀ command ∈ commands, command.mark? ≠ some (flag, true)) (mask : FlagMask) :
    (commands.foldl maskAfter mask).contains flag = true ↔
      mask.contains flag = true ∧ ∀ command ∈ commands, command.mark? ≠ some (flag, false) := by
  -- As nothing sets the flag, once it is cleared it stays so.
  induction commands generalizing mask with
  | nil => simp
  | cons command rest ih =>
    obtain ⟨first, later⟩ := List.forall_mem_cons.mp unset
    rw [List.foldl_cons, ih later, contains_maskAfter, List.forall_mem_cons, ← and_assoc]
    refine and_congr_left fun _ => ?_
    -- The first command clears the flag, or has nothing to do with it.
    cases marked : command.mark? with
    | none => simp
    | some mark =>
      obtain ⟨other, value⟩ := mark
      by_cases same : other = flag
      · cases value <;> simp_all
      · simp [same]

/-- A flag that is not shown stays so until a command sets it. -/
theorem not_contains_foldl_of_unset {flag : Flag} {commands : List Command}
    (unset : ∀ command ∈ commands, command.mark? ≠ some (flag, true)) {mask : FlagMask}
    (clear : mask.contains flag = false) :
    (commands.foldl maskAfter mask).contains flag = false := by
  refine Bool.eq_false_iff.mpr fun shown => ?_
  have before := ((contains_foldl_of_unset unset mask).mp shown).1
  rw [clear] at before
  contradiction

end Agent

/-- What one host is told to do among what all are told. -/
def heard (host : String) (told : List (String × Command)) : List Command :=
  (told.filter fun entry => entry.1 == host).map (·.2)

section Heard

variable {host : String} {told early late : List (String × Command)} {command : Command}

/-- A host is told what is told to it. -/
theorem mem_heard : command ∈ heard host told ↔ (host, command) ∈ told := by
  simp [heard]

/-- A host hears things in their order. -/
@[simp] theorem heard_append :
    heard host (early ++ late) = heard host early ++ heard host late := by
  simp [heard]

/-- What is told at one address is heard there, and by nobody else. -/
theorem heard_at (ip host : String) (commands : List Command) :
    heard host (commands.map fun command => (ip, command)) =
      if ip = host then commands else [] := by
  by_cases same : ip = host <;> simp [heard, List.filter_map, Function.comp_def, same]

end Heard

/-- The commands of a trace begin with that of its first effect, if it sends one. -/
theorem Report.commandsOf_cons (host : String) (effect : Effect) (rest : Trace) :
    commandsOf ((host, effect) :: rest) =
      (effect.command?.toList.map fun command => (host, command)) ++ commandsOf rest := by
  cases effect <;> rfl

/-- What reaches a host includes the commands that are sent to it. -/
theorem Trace.filterMap_onHost (trace : Trace) (host : String) :
    (trace.onHost host).filterMap (·.command?) = heard host (Report.commandsOf trace) := by
  -- An effect counts if it is a command, and to this host.
  induction trace with
  | nil => rfl
  | cons entry rest ih =>
    obtain ⟨name, effect⟩ := entry
    rw [Report.commandsOf_cons, heard_append, ← ih]
    by_cases same : name = host <;> cases sent : effect.command? <;>
      simp [onHost, heard, same, sent]

/-- Among what a host is sent, it is told to do all but what is about viewers. -/
theorem Trace.heard_actions (trace : Trace) (host : String) :
    heard host trace.actions = (heard host (Report.commandsOf trace)).filter (!·.admits) := by
  simp [heard, actions, List.filter_map, List.filter_filter, Bool.and_comm, Function.comp_def]

/-- The flags that an agent would report go by what its host is told to do. -/
theorem Agents.observe_mask (agents : Agents) (trace : Trace) (host : String) :
    ((agents.observe trace).onHost host).mask =
      (heard host trace.actions).foldl Agent.maskAfter (agents.onHost host).mask := by
  rw [onHost_observe, Agent.observe_mask, trace.filterMap_onHost, trace.heard_actions,
    Agent.foldl_filter_admits]

end ComputerRoom
