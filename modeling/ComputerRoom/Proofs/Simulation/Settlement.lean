import ComputerRoom.Proofs.Endpoint.Moves
import ComputerRoom.Proofs.Simulation.Agent

/-!
Settling accounts: what some endpoints hold before and after a trace differs by what the trace opens
and lets go of, host by host.
-/

namespace ComputerRoom

/-- How many transports some endpoints hold to a host. -/
def transportsOn (host : String) (endpoints : List Endpoint) : Nat :=
  endpoints.countP fun endpoint => endpoint.ip == host && endpoint.channel != .closed

/-- How many sessions some endpoints hold on a host. -/
def sessionsOn (host : String) (endpoints : List Endpoint) : Nat :=
  endpoints.countP fun endpoint => endpoint.ip == host && endpoint.channel == .session

/-- The names of some endpoints, in their order. -/
def names (endpoints : List Endpoint) : List String :=
  endpoints.map (·.name)

/-- A trace that leads from what some endpoints hold to what others hold, on every host. -/
structure Settles (before : List Endpoint) (trace : Trace) (after : List Endpoint) : Prop where
  transports : ∀ host, transportsOn host before + trace.countOn (·.opens) host =
    transportsOn host after + trace.countOn (·.stops) host + trace.countOn (·.hangsUp) host
  sessions : ∀ host, sessionsOn host before + trace.countOn (·.joins) host =
    sessionsOn host after + trace.countOn (·.hangsUp) host

/-- Endpoints that go on under their names while they settle. -/
structure Evolves (before : List Endpoint) (trace : Trace) (after : List Endpoint) : Prop extends
    Settles before trace after where
  names_eq : names after = names before

section Counts

variable (host : String) (endpoint : Endpoint)

/-- A single endpoint holds transports to its own host alone. -/
theorem transportsOn_singleton :
    transportsOn host [endpoint] = if endpoint.ip = host then endpoint.link.transports else 0 := by
  -- On its own host an endpoint counts if its channel is open.
  by_cases here : endpoint.ip = host
  · cases held : endpoint.channel <;> simp [transportsOn, Link.transports, here, held]
  · simp [transportsOn, here]

/-- A single endpoint holds sessions on its own host alone. -/
theorem sessionsOn_singleton :
    sessionsOn host [endpoint] = if endpoint.ip = host then endpoint.link.sessions else 0 := by
  -- On its own host an endpoint counts if its channel is a session.
  by_cases here : endpoint.ip = host
  · cases held : endpoint.channel <;> simp [sessionsOn, Link.sessions, here, held]
  · simp [sessionsOn, here]

/-- Transports that two groups of endpoints hold add up. -/
@[simp] theorem transportsOn_append (first second : List Endpoint) :
    transportsOn host (first ++ second) = transportsOn host first + transportsOn host second :=
  List.countP_append

/-- Sessions that two groups of endpoints hold add up. -/
@[simp] theorem sessionsOn_append (first second : List Endpoint) :
    sessionsOn host (first ++ second) = sessionsOn host first + sessionsOn host second :=
  List.countP_append

/-- Nobody holds no transport. -/
@[simp] theorem transportsOn_nil : transportsOn host [] = 0 := rfl

/-- Nobody holds no session. -/
@[simp] theorem sessionsOn_nil : sessionsOn host [] = 0 := rfl

end Counts

namespace Settles

variable {first second third : List Endpoint} {early late : Trace}

/-- Nothing settles nothing. -/
theorem still (endpoints : List Endpoint) : Settles endpoints [] endpoints := by
  constructor <;> simp

/-- One settlement can follow another. -/
theorem andThen (before : Settles first early second) (after : Settles second late third) :
    Settles first (early ++ late) third := by
  -- What is held in between is owed by the one and had by the other.
  constructor
  · intro host
    have := before.transports host
    have := after.transports host
    simp only [Trace.countOn_append]
    omega
  · intro host
    have := before.sessions host
    have := after.sessions host
    simp only [Trace.countOn_append]
    omega

/-- Two groups of endpoints settle side by side. -/
theorem append {before before' after after' : List Endpoint} (one : Settles before early after)
    (other : Settles before' late after') :
    Settles (before ++ before') (early ++ late) (after ++ after') := by
  -- Everything that is counted adds up.
  constructor
  · intro host
    have := one.transports host
    have := other.transports host
    simp only [Trace.countOn_append, transportsOn_append]
    omega
  · intro host
    have := one.sessions host
    have := other.sessions host
    simp only [Trace.countOn_append, sessionsOn_append]
    omega

/-- The order of endpoints does not matter. -/
theorem perm {before after after' : List Endpoint} {trace : Trace}
    (settles : Settles before trace after) (same : after.Perm after') :
    Settles before trace after' := by
  -- Counts do not look at the order.
  constructor
  · intro host
    rw [settles.transports host, transportsOn, transportsOn, same.countP_eq]
  · intro host
    rw [settles.sessions host, sessionsOn, sessionsOn, same.countP_eq]

/-- Lawful moves of a link settle the endpoint that has it. -/
theorem of_moves {endpoint : Endpoint} {reaction : Reaction}
    (moves : endpoint.link.Moves reaction.effects reaction.endpoint.link) :
    Settles [endpoint] reaction.trace [reaction.endpoint] := by
  -- On the endpoint's own host the moves balance, and on every other one nothing happens.
  have place : reaction.endpoint.ip = endpoint.ip := congrArg Address.ip moves.address_eq
  have transports := moves.transports_eq
  have sessions := moves.sessions_eq
  constructor
  · intro host
    simp only [transportsOn_singleton, Trace.countOn, Trace.onHost_reaction, place]
    split
    · exact transports
    · rfl
  · intro host
    simp only [sessionsOn_singleton, Trace.countOn, Trace.onHost_reaction, place]
    split
    · exact sessions
    · rfl

/-- Endpoints whose links are closed can come and go unnoticed. -/
theorem of_closed {endpoints : List Endpoint}
    (closed : ∀ endpoint ∈ endpoints, endpoint.channel = .closed) :
    Settles [] [] endpoints ∧ Settles endpoints [] [] := by
  -- A closed link holds neither a transport nor a session, on whichever host.
  have transports : ∀ host, transportsOn host endpoints = 0 := by
    intro host
    refine List.countP_eq_zero.mpr ?_
    intro endpoint member
    simp [closed endpoint member]
  have sessions : ∀ host, sessionsOn host endpoints = 0 := by
    intro host
    refine List.countP_eq_zero.mpr ?_
    intro endpoint member
    simp [closed endpoint member]
  constructor <;> constructor <;> intro host <;> simp [transports host, sessions host]

/-- An endpoint that is dropped lets go of all that it holds. -/
theorem drop (endpoint : Endpoint) : Settles [endpoint] endpoint.drop.trace [] := by
  -- Dropping does to the outside just what closing does.
  have same : endpoint.drop.trace = endpoint.close.trace := by
    unfold Endpoint.drop Endpoint.close Endpoint.disconnect Endpoint.release Reaction.trace
    split <;> simp [Reaction.andThen, Endpoint.forgetUser, Endpoint.ip]
  have closed : ∀ after ∈ [endpoint.close.endpoint], after.channel = .closed := by simp
  -- After closing, the endpoint goes unnoticed.
  have gone := (of_moves endpoint.close_moves).andThen (of_closed closed).2
  rw [List.append_nil] at gone
  exact same ▸ gone

end Settles

namespace Evolves

variable {first second third : List Endpoint} {early late : Trace}

/-- Endpoints that nothing happens to evolve. -/
theorem still (endpoints : List Endpoint) : Evolves endpoints [] endpoints :=
  ⟨.still endpoints, rfl⟩

/-- Endpoints evolve step by step. -/
theorem andThen (before : Evolves first early second) (after : Evolves second late third) :
    Evolves first (early ++ late) third :=
  ⟨before.toSettles.andThen after.toSettles, after.names_eq.trans before.names_eq⟩

/-- Two groups of endpoints evolve side by side. -/
theorem append {before before' after after' : List Endpoint} (one : Evolves before early after)
    (other : Evolves before' late after') :
    Evolves (before ++ before') (early ++ late) (after ++ after') := by
  refine ⟨one.toSettles.append other.toSettles, ?_⟩
  have left := one.names_eq
  have right := other.names_eq
  simp_all [names]

/-- An endpoint evolves by the lawful moves of its link. -/
theorem of_moves {endpoint : Endpoint} {reaction : Reaction}
    (moves : endpoint.link.Moves reaction.effects reaction.endpoint.link) :
    Evolves [endpoint] reaction.trace [reaction.endpoint] :=
  ⟨.of_moves moves, congrArg (fun machine => [Machine.name machine]) moves.machine_eq⟩

/-- Endpoints that all react lawfully evolve together. -/
theorem map (endpoints : List Endpoint) (react : Endpoint → Reaction)
    (moves : ∀ endpoint : Endpoint,
      endpoint.link.Moves (react endpoint).effects (react endpoint).endpoint.link) :
    Evolves endpoints (endpoints.flatMap fun endpoint => (react endpoint).trace)
      (endpoints.map fun endpoint => (react endpoint).endpoint) := by
  -- The first endpoint evolves beside the rest.
  induction endpoints with
  | nil => exact .still []
  | cons endpoint rest ih => exact append (of_moves (moves endpoint)) ih

/-- An endpoint takes the place of no other than the one with its name. -/
theorem replace_absent {endpoints : List Endpoint} {endpoint : Endpoint}
    (absent : endpoint.name ∉ names endpoints) :
    (endpoints.map fun other => if other.name == endpoint.name then endpoint else other) =
      endpoints := by
  -- The test for the name fails at every endpoint.
  refine (List.map_congr_left ?_).trans (List.map_id endpoints)
  intro other member
  have differs : other.name ≠ endpoint.name := by
    intro same
    exact absent (List.mem_map.mpr ⟨other, member, same⟩)
  simp [differs]

/-- An endpoint that is put in the place of the one with its name evolves beside the others. -/
theorem replace {endpoints : List Endpoint} {endpoint : Endpoint} {reaction : Reaction}
    (distinct : (names endpoints).Nodup) (member : endpoint ∈ endpoints)
    (moves : endpoint.link.Moves reaction.effects reaction.endpoint.link) :
    Evolves endpoints reaction.trace (endpoints.map fun other =>
      if other.name == reaction.endpoint.name then reaction.endpoint else other) := by
  have named : reaction.endpoint.name = endpoint.name := congrArg Machine.name moves.machine_eq
  obtain ⟨early, late, rfl⟩ := List.append_of_mem member
  -- The endpoints before it and after it bear other names.
  rw [names, List.map_append, List.map_cons, List.nodup_append, List.nodup_cons] at distinct
  obtain ⟨_, ⟨unlate, _⟩, apart⟩ := distinct
  have unearly : endpoint.name ∉ names early := by
    intro inside
    exact apart _ inside _ List.mem_cons_self rfl
  have before := @replace_absent early reaction.endpoint (named ▸ unearly)
  have after := @replace_absent late reaction.endpoint (named ▸ unlate)
  rw [List.map_append, List.map_cons, before, after, if_pos (by simp [named])]
  have beside := append (.still early) (append (of_moves moves) (.still late))
  simpa using beside

end Evolves

namespace Agents

/-- Agents whose counts go up by just what a trace does to their hosts. -/
structure Records (before : Agents) (trace : Trace) (after : Agents) : Prop where
  connects : ∀ host, (after.onHost host).connects =
    (before.onHost host).connects + trace.countOn (·.opens) host
  stopped : ∀ host, (after.onHost host).transportsStopped =
    (before.onHost host).transportsStopped + trace.countOn (·.stops) host
  opened : ∀ host, (after.onHost host).sessionsOpened =
    (before.onHost host).sessionsOpened + trace.countOn (·.joins) host
  closed : ∀ host, (after.onHost host).sessionsClosed =
    (before.onHost host).sessionsClosed + trace.countOn (·.hangsUp) host

/-- Agents whose counts agree with what some endpoints hold: nothing is lost or released twice. -/
structure Balanced (agents : Agents) (endpoints : List Endpoint) : Prop where
  transports : ∀ host, (agents.onHost host).connects = (agents.onHost host).transportsStopped +
    (agents.onHost host).sessionsClosed + transportsOn host endpoints
  sessions : ∀ host, (agents.onHost host).sessionsOpened =
    (agents.onHost host).sessionsClosed + sessionsOn host endpoints

variable {agents next last : Agents} {early late trace : Trace} {before after : List Endpoint}

/-- Agents that a trace reaches record it. -/
theorem records_observe (agents : Agents) (trace : Trace) :
    agents.Records trace (agents.observe trace) := by
  -- Each host counts the effects of the trace that reach it.
  constructor <;> intro host <;> rw [onHost_observe]
  · exact (Agent.observe_counts _ _).1
  · exact (Agent.observe_counts _ _).2.1
  · exact (Agent.observe_counts _ _).2.2.1
  · exact (Agent.observe_counts _ _).2.2.2

/-- Agents that nothing happens to record nothing. -/
theorem Records.still (agents : Agents) : agents.Records [] agents :=
  records_observe agents []

/-- Agents record one trace after the other. -/
theorem Records.andThen (first : agents.Records early next) (second : next.Records late last) :
    agents.Records (early ++ late) last := by
  -- Each count goes up by the one trace and then by the other.
  constructor <;> intro host <;> rw [Trace.countOn_append]
  · rw [second.connects, first.connects, Nat.add_assoc]
  · rw [second.stopped, first.stopped, Nat.add_assoc]
  · rw [second.opened, first.opened, Nat.add_assoc]
  · rw [second.closed, first.closed, Nat.add_assoc]

/-- A change to an agent that leaves its counts alone records nothing. -/
theorem records_modify (agents : Agents) (host : String) {change : Agent → Agent}
    (kept : ∀ agent, (change agent).connects = agent.connects ∧
      (change agent).transportsStopped = agent.transportsStopped ∧
      (change agent).sessionsOpened = agent.sessionsOpened ∧
      (change agent).sessionsClosed = agent.sessionsClosed) :
    agents.Records [] (agents.modify host change) := by
  -- The agent that is changed keeps its counts, and no other agent is touched.
  constructor <;> intro other <;> rw [onHost_modify]
  all_goals
    by_cases same : other = host
    · simp [same, kept]
    · simp [same]

/-- Nothing is owed where nothing has happened. -/
theorem balanced_new : Balanced [] [] := by
  constructor <;> intro host <;> rfl

/-- Agents stay in balance with endpoints that settle by the trace they record. -/
theorem Balanced.settle (balanced : agents.Balanced before) (settles : Settles before trace after)
    (records : agents.Records trace next) : next.Balanced after := by
  -- What the trace opens and lets go of is on both sides of the account.
  constructor
  · intro host
    have owed := balanced.transports host
    have moved := settles.transports host
    rw [records.connects, records.stopped, records.closed]
    omega
  · intro host
    have owed := balanced.sessions host
    have moved := settles.sessions host
    rw [records.opened, records.closed]
    omega

end Agents

end ComputerRoom
