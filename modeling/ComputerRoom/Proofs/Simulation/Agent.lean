import ComputerRoom.Proofs.Endpoint.Link
import ComputerRoom.Simulation.Agent

/-! What the agent on each host saw of a trace, counted effect by effect. -/

namespace ComputerRoom

namespace Trace

/-- The effects of a trace that reach one host, in order. -/
def onHost (trace : Trace) (host : String) : List Effect :=
  (trace.filter fun entry => entry.1 == host).map (·.2)

/-- How many effects of some kind a trace has on a host. -/
def countOn (kind : Effect → Bool) (host : String) (trace : Trace) : Nat :=
  (trace.onHost host).countP kind

/-- Nothing reaches a host in an empty trace. -/
@[simp] theorem onHost_nil (host : String) : onHost [] host = [] := rfl

/-- What reaches a host comes in the order of the traces. -/
@[simp] theorem onHost_append (early late : Trace) (host : String) :
    onHost (early ++ late) host = onHost early host ++ onHost late host := by
  simp [onHost]

/-- There is nothing to count in an empty trace. -/
@[simp] theorem countOn_nil (kind : Effect → Bool) (host : String) :
    countOn kind host [] = 0 := rfl

/-- The counts of two traces add up. -/
@[simp] theorem countOn_append (kind : Effect → Bool) (host : String) (early late : Trace) :
    countOn kind host (early ++ late) = countOn kind host early + countOn kind host late := by
  simp [countOn]

/-- The effects of a reaction all reach the host of its endpoint, and no other. -/
@[simp] theorem onHost_reaction (reaction : Reaction) (host : String) :
    onHost reaction.trace host =
      if reaction.endpoint.ip = host then reaction.effects else [] := by
  -- All entries of the trace bear the same host.
  by_cases same : reaction.endpoint.ip = host
  · simp [onHost, Reaction.trace, same, List.filter_map, Function.comp_def]
  · simp [onHost, Reaction.trace, same]

end Trace

namespace Effect

/-- The command that an effect sends, if it sends one. -/
def command? : Effect → Option Command
  | .sent command => some command
  | _ => none

/-- Commands that are sent are all there is to read off their sending. -/
theorem filterMap_command_sent (commands : List Command) :
    (commands.map Effect.sent).filterMap (·.command?) = commands := by
  -- Reading a command off its own sending gives it back.
  rw [List.filterMap_map]
  exact List.filterMap_some

end Effect

namespace Agent

variable (agent : Agent) (effects : List Effect)

/-- An agent counts what is done to its links, each kind on its own. -/
theorem observe_counts :
    let after := effects.foldl observe agent
    after.connects = agent.connects + effects.countP (·.opens) ∧
      after.transportsStopped = agent.transportsStopped + effects.countP (·.stops) ∧
      after.sessionsOpened = agent.sessionsOpened + effects.countP (·.joins) ∧
      after.sessionsClosed = agent.sessionsClosed + effects.countP (·.hangsUp) := by
  -- One effect at a time, and each effect is of one kind at most.
  induction effects generalizing agent with
  | nil => simp
  | cons effect rest ih =>
    obtain ⟨connects, stopped, opened, closed⟩ := ih (agent.observe effect)
    simp only [List.foldl_cons, List.countP_cons]
    rw [connects, stopped, opened, closed]
    cases effect <;>
      simp [observe, Effect.opens, Effect.stops, Effect.joins, Effect.hangsUp] <;> omega

/-- An agent logs every command that it is sent, in order, and nothing else. -/
theorem observe_commands :
    (effects.foldl observe agent).commands =
      agent.commands ++ effects.filterMap (·.command?) := by
  -- The log is kept latest first, so each command goes to its front.
  induction effects generalizing agent with
  | nil => simp
  | cons effect rest ih =>
    rw [List.foldl_cons, ih]
    cases effect <;> simp [observe, Effect.command?, commands]

end Agent

namespace Agents

variable (agents : Agents) (host other : String)

/-- The agent on a host is the first one that is kept under its name. -/
theorem onHost_cons (name : String) (agent : Agent) (rest : Agents) :
    onHost ((name, agent) :: rest) host = if host = name then agent else onHost rest host := by
  -- The name at the head is compared first.
  by_cases same : host = name
  · simp [onHost, same]
  · have differs : (host == name) = false := beq_false_of_ne same
    simp [onHost, List.lookup_cons, differs, same]

/-- A change to the agent on a host reaches that agent alone. -/
theorem onHost_modify (change : Agent → Agent) :
    (agents.modify host change).onHost other =
      if other = host then change (agents.onHost host) else agents.onHost other := by
  -- The change is made where the host is first found, or else at the end of the list.
  induction agents with
  | nil =>
    rw [modify, onHost_cons]
    rfl
  | cons entry rest ih =>
    obtain ⟨name, agent⟩ := entry
    by_cases found : name = host
    · -- The agent at the head is the one that is changed.
      rw [modify, if_pos (by simpa using found), found]
      simp only [onHost_cons, if_true]
      split <;> rfl
    · -- The change is passed on to the rest.
      have missed : ¬ host = name := fun equal => found equal.symm
      rw [modify, if_neg (by simpa using found)]
      simp only [onHost_cons, ih, if_neg missed]
      by_cases same : other = name
      · simp [same, found]
      · simp [same]

/-- The agent on a host sees the effects of a trace on that host, in order. -/
theorem onHost_observe (trace : Trace) :
    (agents.observe trace).onHost host =
      (trace.onHost host).foldl Agent.observe (agents.onHost host) := by
  -- Every effect of the trace changes one agent, so the others are passed over.
  induction trace generalizing agents with
  | nil => rfl
  | cons entry rest ih =>
    obtain ⟨name, effect⟩ := entry
    have next := ih (agents.modify name (·.observe effect))
    rw [onHost_modify] at next
    by_cases same : host = name
    · simpa [observe, Trace.onHost, same] using next
    · have other : name ≠ host := fun equal => same equal.symm
      simpa [observe, Trace.onHost, same, other] using next

end Agents

end ComputerRoom
