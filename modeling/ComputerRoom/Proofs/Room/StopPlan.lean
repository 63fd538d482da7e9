import Mathlib.Data.List.Count
import ComputerRoom.Proofs.Room.Broadcast
import ComputerRoom.Proofs.Simulation.Mask

/-!
What each machine hears when demos are ended: it is told to stop once for each part in a demo that
it is known to have, and nobody else is told anything.
-/

namespace ComputerRoom

namespace Command

/-- What ends demos sets no flag. -/
theorem mark?_of_endsDemo {command : Command} (ends : command.endsDemo = true) (flag : Flag) :
    command.mark? ≠ some (flag, true) := by
  cases command <;> simp_all [endsDemo, mark?]

/-- Only stopping a server clears the flag of servers. -/
theorem mark?_eq_serverStop {command : Command} :
    command.mark? = some (.demoServer, false) ↔ command = .stopDemoServer := by
  cases command <;> simp [mark?]

/-- Only stopping a client clears the flag of clients. -/
theorem mark?_eq_clientStop {command : Command} :
    command.mark? = some (.demoClient, false) ↔ command = .stopDemo := by
  cases command <;> simp [mark?]

end Command

namespace Room

variable {settings : Settings} {room : Room} {endpoint : Endpoint}

/-- Where addresses are distinct, orders reach a host by the name of its machine alone. -/
theorem readyIp?_eq_some_iff (distinct : (names room.endpoints).Nodup)
    (apart : (room.endpoints.map (·.ip)).Nodup) (member : endpoint ∈ room.endpoints)
    (name : String) :
    room.readyIp? name = some endpoint.ip ↔ name = endpoint.name ∧ endpoint.isReady = true := by
  -- Two machines of one address would both hear what is meant for one of them.
  constructor
  · intro taken
    obtain ⟨other, found, ready⟩ := Option.bind_eq_some_iff.mp taken
    have inside : other ∈ room.endpoints := List.mem_of_find?_eq_some found
    simp only [Endpoint.readyIp?, Option.ite_none_right_eq_some, Option.some.injEq] at ready
    have same : other = endpoint := eq_of_text_eq apart inside member ready.2
    subst same
    exact ⟨(name_of_endpoint? found).symm, ready.1⟩
  · rintro ⟨rfl, ready⟩
    simp [readyIp?, endpoint?_of_mem distinct member, Endpoint.readyIp?, ready]

/-- A machine that is ready is told to do what the orders to it say, in their order. -/
theorem heard_performAll (regular : room.Regular) (apart : (room.endpoints.map (·.ip)).Nodup)
    (member : endpoint ∈ room.endpoints) (plan : List (String × Order)) :
    heard endpoint.ip (Trace.actions (room.performAll settings plan).2) =
      if endpoint.isReady then
        (plan.filter (·.1 == endpoint.name)).flatMap fun entry => entry.2.actions settings
      else [] := by
  have reaches := readyIp?_eq_some_iff regular.distinct apart member
  rw [performAll_actions regular]
  -- One order after the other: each is meant for this machine, or heard elsewhere if at all.
  induction plan with
  | nil => simp [heard]
  | cons entry rest ih =>
    obtain ⟨name, order⟩ := entry
    have told : heard endpoint.ip ((room.readyIp? name).toList.flatMap fun ip =>
        (order.actions settings).map fun command => (ip, command)) =
        if room.readyIp? name = some endpoint.ip then order.actions settings else [] := by
      cases room.readyIp? name with
      | none => simp [heard]
      | some ip => simp [heard_at]
    rw [List.flatMap_cons, heard_append, ih, List.filter_cons, told]
    simp only [reaches]
    by_cases ready : endpoint.isReady = true
    · by_cases own : name = endpoint.name <;> simp [own, ready]
    · simp [ready]

/-- Orders by name do not reach the host of anybody who is not in the room. -/
theorem performAll_onHost (distinct : (names room.endpoints).Nodup) {host : String}
    (away : host ∉ room.endpoints.map (·.ip)) (plan : List (String × Order)) :
    Trace.onHost (room.performAll settings plan).2 host = [] := by
  -- Whoever takes an order is in the room, and orders change nobody's address.
  induction plan generalizing room with
  | nil => rfl
  | cons entry rest ih =>
    obtain ⟨name, order⟩ := entry
    unfold performAll
    cases found : room.endpoint? name with
    | none => exact ih distinct away
    | some endpoint =>
      have member : endpoint ∈ room.endpoints := List.mem_of_find?_eq_some found
      have same := @Endpoint.perform_unwatched settings endpoint order
      have placed := replace_unwatched distinct member same
      have apart := map_of_unwatched placed Endpoint.unwatched_name
      have ips := map_of_unwatched placed Endpoint.unwatched_ip
      have own : (endpoint.perform settings order).2.endpoint.ip = endpoint.ip :=
        congrArg (·.address.ip) same
      have elsewhere : endpoint.ip ≠ host := fun here =>
        away (List.mem_map.mpr ⟨endpoint, member, here⟩)
      simp only [Trace.onHost_append, Trace.onHost_reaction, own, if_neg elsewhere,
        List.nil_append]
      refine ih ?_ ?_
      · exact (congrArg List.Nodup apart).mpr distinct
      · rw [ips]
        exact away

/-- The name of an endpoint is among those that show a flag if the endpoint does. -/
theorem mem_showing_names (distinct : (names room.endpoints).Nodup)
    (member : endpoint ∈ room.endpoints) (flag : Flag) :
    endpoint.name ∈ (room.showing flag).map (·.name) ↔ endpoint.shows flag = true := by
  constructor
  · intro named
    obtain ⟨other, shown, same⟩ := List.mem_map.mp named
    obtain ⟨inside, shows⟩ := List.mem_filter.mp shown
    exact eq_of_text_eq distinct inside member same ▸ shows
  · exact fun shows => List.mem_map.mpr ⟨endpoint, List.mem_filter.mpr ⟨member, shows⟩, rfl⟩

/-- Servers are told to stop if they show that they serve, or are recorded to. -/
theorem mem_stopPlan_server (distinct : (names room.endpoints).Nodup)
    (member : endpoint ∈ room.endpoints) (recorded : Option String) :
    (endpoint.name, .stopDemoServer) ∈ room.stopPlan recorded ↔
      endpoint.shows .demoServer = true ∨ recorded = some endpoint.name := by
  -- The plan goes by names, and in a room with distinct names each stands for one endpoint.
  have shown : (∃ other ∈ room.showing .demoServer, other.name = endpoint.name) ↔
      endpoint.shows .demoServer = true :=
    List.mem_map.symm.trans (mem_showing_names distinct member .demoServer)
  have planned : (endpoint.name, .stopDemoServer) ∈ room.stopPlan recorded ↔
      (∃ other ∈ room.showing .demoServer, other.name = endpoint.name) ∨
        recorded = some endpoint.name ∧
          ∀ other ∈ room.showing .demoServer, other.name ≠ endpoint.name := by
    simp [stopPlan, endpoint?_of_mem distinct member]
  rw [planned]
  constructor
  · rintro (among | ⟨kept, _⟩)
    · exact .inl (shown.mp among)
    · exact .inr kept
  · rintro (shows | kept)
    · exact .inl (shown.mpr shows)
    · -- The recorded server is added where it does not show that it serves.
      by_cases among : ∃ other ∈ room.showing .demoServer, other.name = endpoint.name
      · exact .inl among
      · exact .inr ⟨kept, fun other inside same => among ⟨other, inside, same⟩⟩

/-- Who is told to stop serving: whoever shows the flag, and the recorded server after them. -/
def stopServers (room : Room) (recorded : Option String) : List String :=
  let shown := (room.showing .demoServer).map (·.name)
  shown ++ recorded.toList.filter fun name =>
    (room.endpoint? name).isSome && !shown.contains name

/-- Nobody shows a flag under a name that somebody else has. -/
theorem showing_names_nodup (distinct : (names room.endpoints).Nodup) (flag : Flag) :
    ((room.showing flag).map (·.name)).Nodup :=
  (List.filter_sublist.map _).nodup distinct

/-- Nobody is told to stop serving twice. -/
theorem stopServers_nodup (distinct : (names room.endpoints).Nodup) (recorded : Option String) :
    (room.stopServers recorded).Nodup := by
  -- The recorded server is added only where it is not among those that show that they serve.
  refine List.nodup_append.mpr ⟨showing_names_nodup distinct .demoServer, ?_, ?_⟩
  · cases recorded with
    | none => simp
    | some name => exact List.filter_sublist.nodup (by simp)
  · rintro name among other kept rfl
    have missing := (List.mem_filter.mp kept).2
    simp only [Bool.and_eq_true, Bool.not_eq_true', List.contains_eq_mem, decide_eq_false_iff_not]
      at missing
    exact missing.2 among

/-- Whoever is told to stop serving shows the flag, or is recorded. -/
theorem mem_stopServers (distinct : (names room.endpoints).Nodup)
    (member : endpoint ∈ room.endpoints) (recorded : Option String) :
    endpoint.name ∈ room.stopServers recorded ↔
      endpoint.shows .demoServer = true ∨ recorded = some endpoint.name := by
  rw [← mem_stopPlan_server distinct member recorded]
  simp [stopPlan, stopServers]

/-- The orders that end demos go to the servers first, then to those that show that they watch. -/
theorem stopPlan_eq (room : Room) (recorded : Option String) : room.stopPlan recorded =
    (room.stopServers recorded).map (fun name => (name, Order.stopDemoServer)) ++
      ((room.showing .demoClient).map (·.name)).map fun name => (name, .stopDemoClient) := by
  simp [stopPlan, stopServers]

/-- A server is told to stop once if it shows that it serves, or is recorded to, and never else. -/
theorem count_stopPlan_server (distinct : (names room.endpoints).Nodup)
    (member : endpoint ∈ room.endpoints) (recorded : Option String) :
    (room.stopPlan recorded).count (endpoint.name, .stopDemoServer) =
      if endpoint.shows .demoServer = true ∨ recorded = some endpoint.name then 1 else 0 := by
  -- The orders to clients are of another kind.
  have clients : (endpoint.name, Order.stopDemoServer) ∉
      ((room.showing .demoClient).map (·.name)).map fun name => (name, .stopDemoClient) := by
    simp
  have apart : Function.Injective fun name : String => (name, Order.stopDemoServer) :=
    fun _ _ same => (Prod.mk.inj same).1
  rw [stopPlan_eq, List.count_append, List.count_eq_zero_of_not_mem clients, Nat.add_zero,
    List.count_map_of_injective _ _ apart, (stopServers_nodup distinct recorded).count]
  simp only [mem_stopServers distinct member]

/-- Among orders of one kind to different names, one name is picked once or not at all. -/
theorem filter_orders {listed : List String} (once : listed.Nodup) (order : Order)
    (name : String) :
    (listed.map fun other => (other, order)).filter (·.1 == name) =
      if name ∈ listed then [(name, order)] else [] := by
  have picked : listed.filter (· == name) = if name ∈ listed then [name] else [] := by
    rw [List.filter_beq, once.count]
    split <;> rfl
  rw [List.filter_map]
  simp only [Function.comp_def, picked]
  split <;> rfl

/-- A machine that is ready is told to stop once for each part in a demo it is known to have. -/
theorem heard_stopPlan (regular : room.Regular) (apart : (room.endpoints.map (·.ip)).Nodup)
    (member : endpoint ∈ room.endpoints) (recorded : Option String) :
    heard endpoint.ip (Trace.actions (room.performAll settings (room.stopPlan recorded)).2) =
      if endpoint.isReady then
        (if endpoint.shows .demoServer = true ∨ recorded = some endpoint.name then
          [.stopDemoServer] else []) ++
        (if endpoint.shows .demoClient = true then [.stopDemo] else [])
      else [] := by
  rw [heard_performAll regular apart member]
  -- The plan has each name once among the servers, and once among the clients.
  have servers := filter_orders (stopServers_nodup regular.distinct recorded) .stopDemoServer
    endpoint.name
  have clients := filter_orders (showing_names_nodup regular.distinct .demoClient)
    .stopDemoClient endpoint.name
  rw [stopPlan_eq, List.filter_append, servers, clients, List.flatMap_append]
  simp only [mem_stopServers regular.distinct member,
    mem_showing_names regular.distinct member]
  congr 2 <;> split <;> simp

/-- A machine that is ready is told to end what it is known to do in a demo. -/
theorem mem_heard_stopPlan (regular : room.Regular) (apart : (room.endpoints.map (·.ip)).Nodup)
    (member : endpoint ∈ room.endpoints) {recorded : Option String} {command : Command} :
    command ∈ heard endpoint.ip
        (Trace.actions (room.performAll settings (room.stopPlan recorded)).2) ↔
      endpoint.isReady = true ∧
        (command = .stopDemoServer ∧
            (endpoint.shows .demoServer = true ∨ recorded = some endpoint.name) ∨
          command = .stopDemo ∧ endpoint.shows .demoClient = true) := by
  rw [heard_stopPlan regular apart member]
  -- Either part in a demo brings one command.
  by_cases ready : endpoint.isReady = true
  · by_cases serves : endpoint.shows .demoServer = true ∨ recorded = some endpoint.name <;>
      by_cases watches : endpoint.shows .demoClient = true <;>
        simp [ready, serves, watches]
  · simp [ready]

/-- Ending demos clears the flags of the machines that are ready and known to be in one. -/
theorem stopPlan_contains (regular : room.Regular) (apart : (room.endpoints.map (·.ip)).Nodup)
    (member : endpoint ∈ room.endpoints) (recorded : Option String) (agents : Agents) :
    let after := (agents.observe (room.performAll settings (room.stopPlan recorded)).2).onHost
      endpoint.ip
    let before := agents.onHost endpoint.ip
    (after.mask.contains .demoServer = true ↔ before.mask.contains .demoServer = true ∧
        ¬ (endpoint.isReady = true ∧
          (endpoint.shows .demoServer = true ∨ recorded = some endpoint.name))) ∧
      (after.mask.contains .demoClient = true ↔ before.mask.contains .demoClient = true ∧
        ¬ (endpoint.isReady = true ∧ endpoint.shows .demoClient = true)) := by
  intro after before
  let told := heard endpoint.ip
    (Trace.actions (room.performAll settings (room.stopPlan recorded)).2)
  have masked : after.mask = told.foldl Agent.maskAfter before.mask := agents.observe_mask _ _
  have hears (command : Command) :=
    @mem_heard_stopPlan settings room endpoint regular apart member recorded command
  -- Ending demos sets no flag, so only what is cleared matters.
  have unset (flag : Flag) : ∀ command ∈ told, command.mark? ≠ some (flag, true) := by
    intro command inside
    exact Command.mark?_of_endsDemo (stopPlan_actions regular recorded _ (mem_heard.mp inside)) flag
  have servers : .stopDemoServer ∈ told ↔ endpoint.isReady = true ∧
      (endpoint.shows .demoServer = true ∨ recorded = some endpoint.name) := by
    simpa using hears .stopDemoServer
  have clients : .stopDemo ∈ told ↔ endpoint.isReady = true ∧
      endpoint.shows .demoClient = true := by
    simpa using hears .stopDemo
  constructor
  · rw [masked, Agent.contains_foldl_of_unset (unset .demoServer), ← servers]
    simp only [ne_eq, Command.mark?_eq_serverStop, List.forall_mem_ne']
  · rw [masked, Agent.contains_foldl_of_unset (unset .demoClient), ← clients]
    simp only [ne_eq, Command.mark?_eq_clientStop, List.forall_mem_ne']

end Room

end ComputerRoom
