import ComputerRoom.Proofs.Simulation.Demo

/-!
Ending demos goes by the flags that machines show, whatever is recorded: where the flags of every
machine in a demo are known, it ends every demo and tells nobody else to stop.
-/

namespace ComputerRoom

/-- How often the agent on a host was sent a command. -/
def Agents.received (agents : Agents) (host : String) (command : Command) : Nat :=
  (agents.onHost host).commands.count command

/-- A host is sent a command once more for each time that it is told to do so. -/
theorem Agents.received_observe (agents : Agents) (trace : Trace) (host : String)
    {command : Command} (acts : command.admits = false) :
    (agents.observe trace).received host command =
      agents.received host command + (heard host trace.actions).count command := by
  -- What is about viewers is left out of actions, and this command is not.
  have kept : (heard host trace.actions).count command =
      (heard host (Report.commandsOf trace)).count command := by
    rw [trace.heard_actions, List.count_filter (by simp [acts])]
  rw [kept, received, received, onHost_observe, Agent.observe_commands, List.count_append,
    trace.filterMap_onHost]

namespace Classroom

variable {room after : Classroom} {endpoint : Endpoint}

/-- Ending demos changes nothing that it goes by. -/
theorem take_stopDemo_standings (distinct : (names room.supervisor.endpoints).Nodup) :
    (room.take .stopDemo).2.supervisor.endpoints.map (·.standing) =
      room.supervisor.endpoints.map (·.standing) := by
  cases present : room.supervisor.room with
  | none => simp [take, afterTurn, Supervisor.stopDemo, Supervisor.endpoints, present]
  | some active =>
    simp only [Supervisor.endpoints, present] at distinct
    simp only [take, afterTurn, Supervisor.stopDemo, Supervisor.endpoints, present]
    exact Room.map_of_unwatched (Room.performAll_unwatched _ _ distinct)
      Endpoint.unwatched_standing

/-- Whoever is in place after demos were ended was there before, with the same name and address. -/
theorem exists_before_stopDemo (distinct : (names room.supervisor.endpoints).Nodup)
    (member : endpoint ∈ (room.take .stopDemo).2.supervisor.endpoints) :
    ∃ before ∈ room.supervisor.endpoints,
      before.name = endpoint.name ∧ before.ip = endpoint.ip := by
  -- The standings are the same as before, so somebody stood like this endpoint.
  have placed : endpoint.standing ∈
      (room.take .stopDemo).2.supervisor.endpoints.map (·.standing) := List.mem_map_of_mem member
  rw [take_stopDemo_standings distinct] at placed
  obtain ⟨before, inside, alike⟩ := List.mem_map.mp placed
  exact ⟨before, inside, congrArg Standing.name alike, congrArg Standing.ip alike⟩

/-- Ending demos has each machine of the room hear just what stops its own part in one. -/
theorem take_stopDemo_received {active : Room} (regular : active.Regular)
    (present : room.supervisor.room = some active) (apart : (active.endpoints.map (·.ip)).Nodup)
    (member : endpoint ∈ active.endpoints) :
    let before := room.world.agents
    let after := (room.take .stopDemo).2.world.agents
    after.received endpoint.ip .stopDemoServer = before.received endpoint.ip .stopDemoServer +
        (if endpoint.isReady = true ∧ (endpoint.shows .demoServer = true ∨
          room.supervisor.demoServer = some endpoint.name) then 1 else 0) ∧
      after.received endpoint.ip .stopDemo = before.received endpoint.ip .stopDemo +
        (if endpoint.isReady = true ∧ endpoint.shows .demoClient = true then 1 else 0) := by
  have told := @Room.heard_stopPlan room.world.settings active endpoint regular apart member
    room.supervisor.demoServer
  simp only [take, afterTurn, World.observe, Supervisor.stopDemo, present]
  rw [Agents.received_observe _ _ _ rfl, Agents.received_observe _ _ _ rfl, told]
  -- Count both commands in what the machine hears, whichever parts it has.
  by_cases ready : endpoint.isReady = true
  · by_cases serves : endpoint.shows .demoServer = true ∨
        room.supervisor.demoServer = some endpoint.name <;>
      by_cases watches : endpoint.shows .demoClient = true <;>
        simp [ready, serves, watches]
  · simp [ready]

/-- A machine whose flags are known to show that it is in a demo is not left in it. -/
theorem take_stopDemo_clears {active : Room} (regular : active.Regular)
    (present : room.supervisor.room = some active) (apart : (active.endpoints.map (·.ip)).Nodup)
    (member : endpoint ∈ active.endpoints)
    (known : ∀ flag ∈ [Flag.demoServer, Flag.demoClient],
      (room.world.agents.onHost endpoint.ip).mask.contains flag = true →
        endpoint.isReady = true ∧
          endpoint.flags.current = some (room.world.agents.onHost endpoint.ip).mask) :
    ∀ flag ∈ [Flag.demoServer, Flag.demoClient],
      ((room.take .stopDemo).2.world.agents.onHost endpoint.ip).mask.contains flag = false := by
  obtain ⟨servers, clients⟩ := take_stopDemo_contains regular present apart member
  -- A flag that the agent has set is one that the endpoint is known to show.
  have shown : ∀ flag ∈ [Flag.demoServer, Flag.demoClient],
      (room.world.agents.onHost endpoint.ip).mask.contains flag = true →
        endpoint.isReady = true ∧ endpoint.shows flag = true := by
    intro flag demo set
    obtain ⟨ready, same⟩ := known flag demo set
    exact ⟨ready, by simp [Endpoint.shows, Endpoint.flag, same, set]⟩
  -- A flag that is left was set before, and whoever shows it was told to stop.
  intro flag demo
  refine Bool.eq_false_iff.mpr fun left => ?_
  simp only [List.mem_cons, List.not_mem_nil, or_false] at demo
  rcases demo with rfl | rfl
  · obtain ⟨set, unstopped⟩ := servers.mp left
    obtain ⟨ready, serves⟩ := shown _ (by simp) set
    exact unstopped ⟨ready, .inl serves⟩
  · obtain ⟨set, unstopped⟩ := clients.mp left
    exact unstopped (shown _ (by simp) set)

/-- Ending demos does not reach the host of anybody who is not in the room. -/
theorem take_stopDemo_onHost (distinct : (names room.supervisor.endpoints).Nodup) {host : String}
    (away : host ∉ room.supervisor.endpoints.map (·.ip)) :
    (room.take .stopDemo).2.world.agents.onHost host = room.world.agents.onHost host := by
  cases present : room.supervisor.room with
  | none => simp [take, afterTurn, World.observe, Supervisor.stopDemo, present, Agents.observe]
  | some active =>
    simp only [Supervisor.endpoints, present] at distinct away
    simp only [take, afterTurn, World.observe, Supervisor.stopDemo, present]
    rw [Agents.onHost_observe, Room.performAll_onHost distinct away]
    rfl

/--
Where every machine in a demo is ready and its flags are known, ending demos goes by the flags,
whatever is recorded: each machine hears once to stop serving if it shows that it serves or is
recorded, and once to stop watching if it shows that it watches, and nobody else hears anything. No
machine is left in a demo, and none is known of once all of them have reported.
-/
theorem stopDemo_goes_by_flags
    (regular : ∀ active, room.supervisor.room = some active → active.Regular)
    (apart : (room.supervisor.endpoints.map (·.ip)).Nodup)
    (known : ∀ endpoint ∈ room.supervisor.endpoints, ∀ flag ∈ [Flag.demoServer, Flag.demoClient],
      (room.world.agents.onHost endpoint.ip).mask.contains flag = true →
        endpoint.isReady = true ∧
          endpoint.flags.current = some (room.world.agents.onHost endpoint.ip).mask) :
    let stopped := (room.take .stopDemo).2
    let before := room.world.agents
    let after := stopped.world.agents
    (room.take .stopDemo).1.answer = .nothing ∧ stopped.supervisor.demoServer = none ∧
      (∀ endpoint ∈ room.supervisor.endpoints,
        after.received endpoint.ip .stopDemoServer = before.received endpoint.ip .stopDemoServer +
            (if endpoint.isReady = true ∧ (endpoint.shows .demoServer = true ∨
              room.supervisor.demoServer = some endpoint.name) then 1 else 0) ∧
          after.received endpoint.ip .stopDemo = before.received endpoint.ip .stopDemo +
            (if endpoint.isReady = true ∧ endpoint.shows .demoClient = true then 1 else 0) ∧
          (after.onHost endpoint.ip).mask.contains .demoServer = false ∧
          (after.onHost endpoint.ip).mask.contains .demoClient = false) ∧
      (∀ host, host ∉ room.supervisor.endpoints.map (·.ip) →
        after.onHost host = before.onHost host) ∧
      ∀ relays : List ClassroomStep,
        (relays = [.relayFlags] ∨
          ∃ reporting : List String,
            (∀ endpoint ∈ room.supervisor.endpoints, endpoint.name ∈ reporting) ∧
              relays = reporting.map fun name => .on name .relayFlags) →
        (stopped.run relays).supervisor.demoActive = false ∧
          (stopped.run relays).supervisor.showing .demoServer = [] ∧
          (stopped.run relays).supervisor.showing .demoClient = [] := by
  intro stopped before after
  -- Without a room there is nobody to say anything about.
  have distinct : (names room.supervisor.endpoints).Nodup := by
    cases present : room.supervisor.room with
    | none => simp [Supervisor.endpoints, names, present]
    | some active => simpa [Supervisor.endpoints, present] using (regular active present).distinct
  have each : ∀ endpoint ∈ room.supervisor.endpoints, ∃ active,
      room.supervisor.room = some active ∧ endpoint ∈ active.endpoints ∧
        (active.endpoints.map (·.ip)).Nodup := by
    intro endpoint member
    cases present : room.supervisor.room with
    | none => simp [Supervisor.endpoints, present] at member
    | some active =>
      simp only [Supervisor.endpoints, present] at member apart
      exact ⟨active, rfl, member, apart⟩
  have clean : ∀ endpoint ∈ room.supervisor.endpoints,
      ∀ flag ∈ [Flag.demoServer, Flag.demoClient],
        (after.onHost endpoint.ip).mask.contains flag = false := by
    intro endpoint member
    obtain ⟨active, present, inside, addresses⟩ := each endpoint member
    exact take_stopDemo_clears (regular active present) present addresses inside
      (known endpoint member)
  refine ⟨rfl, ?_, ?_, fun host away => take_stopDemo_onHost distinct away, ?_⟩
  · cases present : room.supervisor.room <;>
      simp [stopped, take, afterTurn, Supervisor.stopDemo, present]
  · intro endpoint member
    obtain ⟨active, present, inside, addresses⟩ := each endpoint member
    obtain ⟨served, watched⟩ :=
      take_stopDemo_received (regular active present) present addresses inside
    exact ⟨served, watched, clean endpoint member _ (by simp), clean endpoint member _ (by simp)⟩
  · intro relays order
    -- Whoever reports after that was there before, and is in no demo any more.
    have dark : ∀ endpoint ∈ stopped.supervisor.endpoints,
        ∀ flag ∈ [Flag.demoServer, Flag.demoClient],
          (stopped.world.agents.onHost endpoint.ip).mask.contains flag = false := by
      intro endpoint member
      obtain ⟨earlier, inside, _, located⟩ := exists_before_stopDemo distinct member
      exact located ▸ clean earlier inside
    -- All may report at once, or one by one in any order.
    rcases order with rfl | ⟨reporting, all, rfl⟩
    · refine (take_relayFlags stopped).demoless (fun endpoint member => ?_) dark
      exact List.mem_map.mpr ⟨endpoint, member, rfl⟩
    · have same := congrArg (List.map (·.name)) (take_stopDemo_standings distinct)
      have kept : names stopped.supervisor.endpoints = names room.supervisor.endpoints := by
        simpa [names, Function.comp_def, Endpoint.standing] using same
      refine (run_relays (kept ▸ distinct) reporting).demoless (fun endpoint member => ?_) dark
      obtain ⟨earlier, inside, named, _⟩ := exists_before_stopDemo distinct member
      exact named ▸ all earlier inside

/-- Two machines that serve, one of which watches too, are stopped though neither is recorded. -/
theorem stopDemo_goes_by_flags_unrecorded :
    let base := (new labSettings labRoster none).run
      (.select "lab" :: (becomeReady "pc01" ++ becomeReady "pc02"))
    let agents := (base.world.agents.modify "10.0.0.11" ({ · with mask := .ofNat 6 })).modify
      "10.0.0.12" ({ · with mask := .ofNat 2 })
    let shown := { base with world := { base.world with agents } }.run [.relayFlags]
    let room := { shown with supervisor := { shown.supervisor with demoServer := some "pc09" } }
    let stopped := (room.take .stopDemo).2
    (room.supervisor.endpoints.map fun endpoint =>
        (endpoint.name, endpoint.isReady, (room.world.agents.onHost endpoint.ip).mask.toNat)) =
        [("pc01", true, 6), ("pc02", true, 2), ("pc03", false, 0)] ∧
      (room.supervisor.endpoints.map fun endpoint =>
        (stopped.world.agents.received endpoint.ip .stopDemoServer,
          stopped.world.agents.received endpoint.ip .stopDemo)) = [(1, 1), (1, 0), (0, 0)] ∧
      stopped.supervisor.demoServer = none ∧
      (stopped.run [.relayFlags]).supervisor.demoActive = false := by
  intro base agents shown room stopped
  -- Whatever agents show, the room came about by steps of a classroom.
  have lawful : AllLawful base.live :=
    @run_lawful (new labSettings labRoster none) (List.forall_mem_nil _) _
  have relayed : AllLawful shown.live :=
    @run_lawful { base with world := { base.world with agents } } lawful [.relayFlags]
  have distinct : (names room.supervisor.endpoints).Nodup := by decide +kernel
  have regular : ∀ active, room.supervisor.room = some active → active.Regular := by
    intro active present
    have inside : room.supervisor.endpoints = active.endpoints := by
      simp [Supervisor.endpoints, present]
    exact ⟨inside ▸ distinct, inside ▸ (forall_mem_live.mp relayed).1⟩
  obtain ⟨_, forgotten, told, _, reported⟩ := stopDemo_goes_by_flags regular
    (by decide +kernel) (by decide +kernel)
  refine ⟨by decide +kernel, ?_, forgotten, (reported [.relayFlags] (.inl rfl)).1⟩
  have counted := List.map_congr_left fun endpoint member =>
    congr (congrArg Prod.mk (told endpoint member).1) (told endpoint member).2.1
  rw [counted]
  decide +kernel

end Classroom

end ComputerRoom
