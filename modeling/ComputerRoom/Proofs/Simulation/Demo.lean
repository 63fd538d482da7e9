import ComputerRoom.Proofs.Room.StopPlan
import ComputerRoom.Proofs.Simulation.Relay

/-!
How far ending a demo undoes starting it. Demos are ended on the machines that last reported to be
in one, so a client whose report has not arrived yet goes on showing the demo.
-/

namespace ComputerRoom

namespace Endpoint

variable {settings : Settings} {roster : Roster} {address : String} {fullscreen : Bool}

/-- What a client is told goes to it, and makes no server of it. -/
theorem of_mem_showDemo {client : Endpoint} {ip : String} {command : Command}
    (told : (ip, command) ∈ client.showDemo settings roster address fullscreen) :
    client.ip = ip ∧ command.mark? ≠ some (.demoServer, true) := by
  simp only [showDemo, List.mem_cons, Prod.mk.injEq, List.not_mem_nil, or_false] at told
  rcases told with ⟨rfl, rfl⟩ | ⟨rfl, rfl⟩ | ⟨rfl, rfl⟩ | ⟨rfl, rfl⟩ <;>
    simp [Command.mark?]

/-- What a server is told goes to it, and makes no client of it. -/
theorem of_mem_serveDemo {host : Endpoint} {ip : String} {command : Command}
    (told : (ip, command) ∈ host.serveDemo settings) :
    host.ip = ip ∧ command.mark? ≠ some (.demoClient, true) := by
  obtain ⟨own, ready, among⟩ := List.mem_flatMap.mp told
  simp only [readyIp?, Option.mem_toList, Option.ite_none_right_eq_some, Option.some.injEq]
    at ready
  simp only [List.mem_cons, Prod.mk.injEq, List.not_mem_nil, or_false] at among
  rcases among with ⟨rfl, rfl⟩ | ⟨rfl, rfl⟩ <;> simp [ready.2, Command.mark?]

/-- Nobody hears what clients at other addresses are told to show. -/
theorem heard_showDemo_elsewhere {clients : List Endpoint} {host : String}
    (away : ∀ client ∈ clients, client.ip ≠ host) :
    heard host (clients.flatMap (showDemo settings roster address fullscreen)) = [] := by
  refine List.eq_nil_iff_forall_not_mem.mpr ?_
  intro command told
  obtain ⟨client, inside, among⟩ := List.mem_flatMap.mp (mem_heard.mp told)
  exact away client inside (of_mem_showDemo among).1

/-- Where addresses are distinct, a client alone hears what it is told to show. -/
theorem heard_showDemo {clients : List Endpoint} (apart : (clients.map (·.ip)).Nodup)
    {client : Endpoint} (member : client ∈ clients) :
    heard client.ip (clients.flatMap (showDemo settings roster address fullscreen)) =
      [.stopDemo, .unlockScreen, .unlockInput,
        .startDemo address settings.demoPort (fullscreen && client.fillsScreen roster)] := by
  -- Split the clients at this one: none before or after it has its address.
  obtain ⟨early, late, rfl⟩ := List.append_of_mem member
  rw [List.map_append, List.map_cons, List.nodup_append, List.nodup_cons] at apart
  obtain ⟨_, ⟨unlate, _⟩, unearly⟩ := apart
  rw [List.flatMap_append, List.flatMap_cons, heard_append, heard_append,
    heard_showDemo_elsewhere, heard_showDemo_elsewhere]
  · simp [heard, showDemo]
  · exact fun other inside same => unlate (List.mem_map.mpr ⟨other, inside, same⟩)
  · intro other inside same
    exact unearly _ (List.mem_map.mpr ⟨other, inside, rfl⟩) _ List.mem_cons_self same

end Endpoint

namespace Supervisor

variable {settings : Settings} {supervisor : Supervisor} {active : Room} {server : String}

/-- What a machine hears when a demo is started ends one, or is for its server, or for a client. -/
theorem of_mem_heard_start {ended : List (String × Command)}
    (ending : ∀ entry ∈ ended, entry.2.endsDemo = true) {host : Endpoint}
    (found : active.endpoint? server = some host) {roster : Roster} {fullscreen : Bool}
    (apart : (active.endpoints.map (·.ip)).Nodup) {endpoint : Endpoint}
    (member : endpoint ∈ active.endpoints) {command : Command}
    (told : command ∈ heard endpoint.ip (ended ++ (host.serveDemo settings ++
      (active.audience server).flatMap (Endpoint.showDemo settings roster host.ip fullscreen)))) :
    command.endsDemo = true ∨
      endpoint.name = server ∧ command.mark? ≠ some (.demoClient, true) ∨
      endpoint ∈ active.audience server ∧ command.mark? ≠ some (.demoServer, true) := by
  -- Whoever has the address that something is told to is the machine it is meant for.
  rcases List.mem_append.mp (mem_heard.mp told) with ends | starts
  · exact .inl (ending _ ends)
  · rcases List.mem_append.mp starts with serves | shows
    · obtain ⟨address, unmarked⟩ := Endpoint.of_mem_serveDemo serves
      have same := eq_of_text_eq apart (List.mem_of_find?_eq_some found) member address
      exact .inr (.inl ⟨same ▸ Room.name_of_endpoint? found, unmarked⟩)
    · obtain ⟨client, inside, among⟩ := List.mem_flatMap.mp shows
      obtain ⟨address, unmarked⟩ := Endpoint.of_mem_showDemo among
      have same := eq_of_text_eq apart (Room.isReady_of_mem_audience inside).1 member address
      exact .inr (.inr ⟨same ▸ inside, unmarked⟩)

/-- Starting a demo where none is running sets the flags of its server and its clients alone. -/
theorem startDemo_contains (regular : active.Regular) (present : supervisor.room = some active)
    {host : Endpoint} (found : active.endpoint? server = some host) (roster : Roster)
    (fullscreen : Bool) (apart : (active.endpoints.map (·.ip)).Nodup) {endpoint : Endpoint}
    (member : endpoint ∈ active.endpoints) (agents : Agents)
    (clean : (agents.onHost endpoint.ip).mask.contains .demoServer = false ∧
      (agents.onHost endpoint.ip).mask.contains .demoClient = false) :
    let outcome := supervisor.startDemo settings roster server fullscreen
    let after := (agents.observe outcome.2.1.trace).onHost endpoint.ip
    (after.mask.contains .demoServer = true → endpoint.name = server) ∧
      (after.mask.contains .demoClient = true ↔ endpoint ∈ active.audience server) := by
  intro outcome after
  obtain ⟨_, _, _, ended, ending, actions⟩ :=
    @startDemo_of_found settings supervisor active server regular present host found roster
      fullscreen
  let shown := (active.audience server).flatMap
    (Endpoint.showDemo settings roster host.ip fullscreen)
  have masked : after.mask = (heard endpoint.ip (ended ++ (host.serveDemo settings ++ shown))).foldl
      Agent.maskAfter (agents.onHost endpoint.ip).mask := by
    rw [← actions]
    exact agents.observe_mask _ _
  have hears (command : Command) := @of_mem_heard_start settings active server ended ending host
    found roster fullscreen apart endpoint member command
  rw [masked]
  constructor
  · intro serving
    refine Decidable.byContradiction fun other => ?_
    -- Nobody else is told to serve, so the flag stays as it was.
    have unset : ∀ command ∈ heard endpoint.ip (ended ++ (host.serveDemo settings ++ shown)),
        command.mark? ≠ some (.demoServer, true) := by
      intro command told
      rcases hears command told with ends | ⟨own, _⟩ | ⟨_, unmarked⟩
      · exact Command.mark?_of_endsDemo ends _
      · exact absurd own other
      · exact unmarked
    rw [Agent.not_contains_foldl_of_unset unset clean.1] at serving
    contradiction
  · -- A client is told to show the demo; nobody else is.
    by_cases watches : endpoint ∈ active.audience server
    · refine iff_of_true ?_ watches
      -- The last that a client is told is to show the demo.
      have alone : ((active.audience server).map (·.ip)).Nodup :=
        (List.filter_sublist.map _).nodup apart
      rw [heard_append, heard_append, Endpoint.heard_showDemo alone watches, ← List.append_assoc,
        List.foldl_append]
      simp [Agent.contains_maskAfter, Command.mark?]
    · have unset : ∀ command ∈ heard endpoint.ip (ended ++ (host.serveDemo settings ++ shown)),
          command.mark? ≠ some (.demoClient, true) := by
        intro command told
        rcases hears command told with ends | ⟨_, unmarked⟩ | ⟨watching, _⟩
        · exact Command.mark?_of_endsDemo ends _
        · exact unmarked
        · exact absurd watching watches
      rw [Agent.not_contains_foldl_of_unset unset clean.2]
      exact iff_of_false Bool.false_ne_true watches

end Supervisor

namespace Classroom

/-- Steps that follow others are taken after them. -/
theorem run_append (room : Classroom) (early late : List ClassroomStep) :
    room.run (early ++ late) = (room.run early).run late :=
  List.foldl_append

variable {room : Classroom} {active : Room} {server : String} {endpoint : Endpoint}

/-- Starting a demo records its server, and changes nothing that ending it would go by. -/
theorem take_startDemo_standings (regular : active.Regular)
    (present : room.supervisor.room = some active) {host : Endpoint}
    (found : active.endpoint? server = some host) (fullscreen : Bool) :
    let after := (room.take (.startDemo server fullscreen)).2
    after.supervisor.demoServer = some server ∧
      after.supervisor.endpoints.map (·.standing) = active.endpoints.map (·.standing) := by
  obtain ⟨_, recorded, ⟨showing, shown, same⟩, _⟩ :=
    @Supervisor.startDemo_of_found room.world.settings room.supervisor active server regular present
      host found room.world.roster fullscreen
  refine ⟨recorded, ?_⟩
  simp only [take, afterTurn, Supervisor.endpoints, shown]
  -- A start changes the viewers of the server, which no standing mentions.
  exact Room.map_of_unwatched same Endpoint.unwatched_standing

/-- Ending demos clears the flags of the machines that are ready and known to be in one. -/
theorem take_stopDemo_contains (regular : active.Regular)
    (present : room.supervisor.room = some active) (apart : (active.endpoints.map (·.ip)).Nodup)
    (member : endpoint ∈ active.endpoints) :
    let after := (room.take .stopDemo).2.world.agents.onHost endpoint.ip
    let before := room.world.agents.onHost endpoint.ip
    (after.mask.contains .demoServer = true ↔ before.mask.contains .demoServer = true ∧
        ¬ (endpoint.isReady = true ∧ (endpoint.shows .demoServer = true ∨
          room.supervisor.demoServer = some endpoint.name))) ∧
      (after.mask.contains .demoClient = true ↔ before.mask.contains .demoClient = true ∧
        ¬ (endpoint.isReady = true ∧ endpoint.shows .demoClient = true)) := by
  simp only [take, afterTurn, World.observe, Supervisor.stopDemo, present]
  exact Room.stopPlan_contains regular apart member room.supervisor.demoServer room.world.agents

variable (settings : Settings) (roster : Roster) (prober : Option Prober)
  (steps : List ClassroomStep) (fullscreen : Bool) (reporting : List String)

/--
Ending demos after some machines reported clears the flags of the machines that are ready and
recorded as the server, or reported the flag, or had been known to show it.
-/
theorem stopDemo_contains_reported
    (apart : (((new settings roster prober).run steps).supervisor.endpoints.map (·.ip)).Nodup)
    (placed : endpoint.standing ∈
      ((new settings roster prober).run steps).supervisor.endpoints.map (·.standing)) :
    let room := (new settings roster prober).run steps
    let before := (room.world.agents.onHost endpoint.ip).mask
    let after := ((room.run (reporting.map (fun name => .on name .relayFlags) ++
      [.stopDemo])).world.agents.onHost endpoint.ip).mask
    let known (flag : Flag) : Bool :=
      if endpoint.name ∈ reporting then before.contains flag else endpoint.shows flag
    (after.contains .demoServer = true ↔ before.contains .demoServer = true ∧
        ¬ (endpoint.isReady = true ∧ (known .demoServer = true ∨
          room.supervisor.demoServer = some endpoint.name))) ∧
      (after.contains .demoClient = true ↔ before.contains .demoClient = true ∧
        ¬ (endpoint.isReady = true ∧ known .demoClient = true)) := by
  intro room before after known
  let relays : List ClassroomStep := reporting.map fun name => .on name .relayFlags
  have distinct : (names room.supervisor.endpoints).Nodup :=
    (run_accounted (new_accounted settings roster prober) steps).distinct
  have reported : room.Reported reporting (room.run relays) := run_relays distinct reporting
  -- Demos are ended by what is known of the endpoint in its place after the reports.
  obtain ⟨twin, inside, named, located, up, shows⟩ := reported.exists_twin placed
  cases last : (room.run relays).supervisor.room with
  | none => simp [Supervisor.endpoints, last] at inside
  | some final =>
    have arrived : ((new settings roster prober).run (steps ++ relays)).supervisor.room =
        some final := by
      rw [run_append]
      exact last
    have regular := run_regular settings roster prober _ arrived
    have places := reported.ips_eq
    simp only [Supervisor.endpoints, last] at inside places
    obtain ⟨servers, clients⟩ := take_stopDemo_contains regular last (places ▸ apart) inside
    rw [located, up, named, shows, reported.agents, reported.demoServer] at servers
    rw [located, up, shows, reported.agents] at clients
    simp only [after, run_append]
    exact ⟨servers, clients⟩

/--
A demo that is started where none is running, and ended after some machines reported what their
agents show, leaves no agent serving. It leaves just those showing it that watched, did not report,
and had not been known to show a demo before.
-/
theorem stopDemo_leaves_unreported {host : Endpoint}
    (present : ((new settings roster prober).run steps).supervisor.room = some active)
    (found : active.endpoint? server = some host) (ready : host.isReady = true)
    (apart : (active.endpoints.map (·.ip)).Nodup)
    (clean : ∀ endpoint ∈ active.endpoints, ∀ flag ∈ [Flag.demoServer, Flag.demoClient],
      (((new settings roster prober).run steps).world.agents.onHost endpoint.ip).mask.contains
        flag = false) :
    let after := (new settings roster prober).run (steps ++ .startDemo server fullscreen ::
      (reporting.map (fun name => .on name .relayFlags) ++ [.stopDemo]))
    ∀ endpoint ∈ active.endpoints,
      (after.world.agents.onHost endpoint.ip).mask.contains .demoServer = false ∧
        ((after.world.agents.onHost endpoint.ip).mask.contains .demoClient = true ↔
          endpoint ∈ active.audience server ∧ endpoint.name ∉ reporting ∧
            endpoint.shows .demoClient = false) := by
  intro after endpoint member
  let room := (new settings roster prober).run steps
  have regular := run_regular settings roster prober steps present
  -- The start sets flags, and leaves all standings as they are.
  obtain ⟨recorded, standings⟩ := take_startDemo_standings regular present found fullscreen
  obtain ⟨serves, watches⟩ :=
    @Supervisor.startDemo_contains room.world.settings room.supervisor active server regular present
      host found room.world.roster fullscreen apart endpoint member room.world.agents
      ⟨clean endpoint member _ (by simp), clean endpoint member _ (by simp)⟩
  have ips := congrArg (List.map (·.ip)) standings
  simp only [List.map_map, Function.comp_def, Endpoint.standing] at ips
  have started : (new settings roster prober).run (steps ++ [.startDemo server fullscreen]) =
      (room.take (.startDemo server fullscreen)).2 := run_append _ steps _
  obtain ⟨servers, clients⟩ := @stopDemo_contains_reported endpoint settings roster prober
    (steps ++ [.startDemo server fullscreen]) reporting
    (by rw [started]; exact ips ▸ apart)
    (by rw [started, standings]; exact List.mem_map_of_mem member)
  have ended : after = ((new settings roster prober).run
      (steps ++ [.startDemo server fullscreen])).run
        (reporting.map (fun name => .on name .relayFlags) ++ [.stopDemo]) := by
    rw [← run_append, List.append_assoc]
    rfl
  rw [← ended, started] at servers clients
  dsimp only at clients
  -- The server is told to stop in any case, and a client if it is known to watch.
  constructor
  · refine Bool.eq_false_iff.mpr fun serving => ?_
    obtain ⟨set, unstopped⟩ := servers.mp serving
    -- Only the server serves, and it is ready and recorded.
    have own : endpoint.name = server := serves set
    have same : host = endpoint := eq_of_text_eq regular.distinct
      (List.mem_of_find?_eq_some found) member ((Room.name_of_endpoint? found).trans own.symm)
    exact unstopped ⟨same ▸ ready, .inr (recorded.trans (congrArg some own.symm))⟩
  · rw [clients]
    constructor
    · rintro ⟨set, unstopped⟩
      have watching := watches.mp set
      have unknown := fun known => unstopped ⟨(Room.isReady_of_mem_audience watching).2, known⟩
      -- A report would have told of the demo, as the flag was set by then.
      by_cases told : endpoint.name ∈ reporting
      · rw [if_pos told] at unknown
        exact absurd set unknown
      · rw [if_neg told] at unknown
        exact ⟨watching, told, Bool.eq_false_iff.mpr unknown⟩
    · rintro ⟨watching, untold, unseen⟩
      refine ⟨watches.mpr watching, ?_⟩
      rintro ⟨_, known⟩
      rw [if_neg untold, unseen] at known
      contradiction

/-- A demo is ended on all machines of the lab once its one client has reported to show it. -/
theorem stopDemo_leaves_unreported_none :
    let steps := .select "lab" :: (becomeReady "pc01" ++ becomeReady "pc02")
    let room := (new labSettings labRoster none).run steps
    let after := (new labSettings labRoster none).run (steps ++ .startDemo "pc01" true ::
      (["pc02"].map (fun name => .on name .relayFlags) ++ [.stopDemo]))
    (room.supervisor.endpoints.map fun endpoint => (endpoint.name, endpoint.isReady)) =
        [("pc01", true), ("pc02", true), ("pc03", false)] ∧
      ∀ endpoint ∈ room.supervisor.endpoints,
        (after.world.agents.onHost endpoint.ip).mask.contains .demoServer = false ∧
          (after.world.agents.onHost endpoint.ip).mask.contains .demoClient = false := by
  intro steps room after
  refine ⟨by decide +kernel, ?_⟩
  -- That the room is active and has its first machine is seen by running the steps.
  let active := room.supervisor.room.get (by decide +kernel)
  let host := (active.endpoint? "pc01").get (by decide +kernel)
  have present : room.supervisor.room = some active := (Option.some_get _).symm
  have found : active.endpoint? "pc01" = some host := (Option.some_get _).symm
  have left := stopDemo_leaves_unreported labSettings labRoster none steps true ["pc02"] present
    found (by decide +kernel) (by decide +kernel) (by decide +kernel)
  have reported : ∀ endpoint ∈ active.endpoints, endpoint ∈ active.audience "pc01" →
      endpoint.name ∈ ["pc02"] := by
    decide +kernel
  -- Only a client that has not reported could be left, and the one client has reported.
  intro endpoint member
  have inside : endpoint ∈ active.endpoints := by
    simpa [Supervisor.endpoints, present] using member
  obtain ⟨unserved, shown⟩ := left endpoint inside
  refine ⟨unserved, Bool.eq_false_iff.mpr fun watching => ?_⟩
  obtain ⟨watches, unreported, _⟩ := shown.mp watching
  exact unreported (reported endpoint inside watches)

/-- A client that has not reported yet goes on showing a demo that was ended. -/
theorem stopDemo_leaves_client :
    let room := (new labSettings labRoster none).run
      (.select "lab" :: (becomeReady "pc01" ++ becomeReady "pc02"))
    let after := room.run [.startDemo "pc01" true, .stopDemo]
    (room.supervisor.endpoints.map fun endpoint => (endpoint.ip, endpoint.isReady)) =
        [("10.0.0.11", true), ("10.0.0.12", true), ("10.0.0.13", false)] ∧
      (room.supervisor.endpoints.map fun endpoint =>
        (room.world.agents.onHost endpoint.ip).mask) = [.empty, .empty, .empty] ∧
      (after.world.agents.onHost "10.0.0.12").mask.contains .demoClient = true := by
  decide +kernel

end Classroom

end ComputerRoom
