import ComputerRoom.Proofs.Room.Orders
import ComputerRoom.Proofs.User.Roster

/-!
What a demo has the machines of a room do. Ending demos only stops things. Starting one tells the
server first, if it is ready, and then every machine that is ready to watch.
-/

namespace ComputerRoom

/-- Whether a command starts a demo, on its server or on a client. -/
def Command.startsDemo : Command → Bool
  | .startDemoServer _ _ | .startDemo _ _ _ => true
  | _ => false

/-- Whether a command ends a demo, on its server or on a client. -/
def Command.endsDemo : Command → Bool
  | .stopDemoServer | .stopDemo => true
  | _ => false

/-- What starts a demo is not just about who may watch. -/
theorem Command.admits_of_startsDemo {command : Command} (starting : command.startsDemo = true) :
    command.admits = false := by
  cases command <;> first | rfl | cases starting

namespace Trace

/-- The commands of a trace that start demos, each with the host it goes to. -/
def starts (trace : Trace) : List (String × Command) :=
  (actions trace).filter (·.2.startsDemo)

/-- The hosts that a demo is shown on in a trace, each with whether it fills the screen there. -/
def shown (trace : Trace) : List (String × Bool) :=
  (Report.commandsOf trace).filterMap fun
    | (ip, .startDemo _ _ fullscreen) => some (ip, fullscreen)
    | _ => none

/-- Demos start in the order of the traces. -/
@[simp] theorem starts_append (early late : Trace) :
    starts (early ++ late) = starts early ++ starts late := by
  simp [starts]

/-- A command that starts a demo is the next thing that is started. -/
theorem starts_cons_sent {trace : Trace} {ip : String} {command : Command}
    (starting : command.startsDemo = true) :
    starts ((ip, .sent command) :: trace) = (ip, command) :: starts trace := by
  simp [starts, actions, Report.commandsOf, Command.admits_of_startsDemo starting, starting]

/-- Demos are shown by commands that start them. -/
theorem shown_eq (trace : Trace) : shown trace = (starts trace).filterMap fun
    | (ip, .startDemo _ _ fullscreen) => some (ip, fullscreen)
    | _ => none := by
  -- Whatever is left out of what starts shows nothing either.
  simp only [shown, starts, actions, List.filter_filter, List.filterMap_filter]
  congr 1
  funext entry
  obtain ⟨ip, command⟩ := entry
  cases command <;> rfl

/-- What ends demos starts none. -/
theorem no_starts {told : List (String × Command)}
    (ending : ∀ entry ∈ told, entry.2.endsDemo = true) :
    told.filter (·.2.startsDemo) = [] := by
  refine List.filter_eq_nil_iff.mpr ?_
  rintro ⟨ip, command⟩ member
  have ends : command.endsDemo = true := ending _ member
  cases command <;> simp_all [Command.endsDemo, Command.startsDemo]

/-- A command that starts a demo is among those of the trace it is sent in. -/
theorem mem_starts {trace : Trace} {ip : String} {command : Command}
    (starting : command.startsDemo = true) :
    (ip, command) ∈ starts trace ↔ (ip, .sent command) ∈ trace := by
  simp only [starts, actions, Report.commandsOf, List.mem_filter, List.mem_filterMap,
    Command.admits_of_startsDemo starting, starting]
  -- Only effects that send commands count, and this command is one that counts.
  constructor
  · rintro ⟨⟨⟨⟨host, effect⟩, member, told⟩, _⟩, _⟩
    cases effect with
    | sent other =>
      cases told
      exact member
    | opened | transportStopped | sessionOpened | sessionClosed | published => cases told
  · exact fun member => ⟨⟨⟨_, member, rfl⟩, rfl⟩, trivial⟩

end Trace

namespace Order

variable (settings : Settings)

/-- A machine starts its server anew, whoever is let in then. -/
@[simp] theorem startDemoServer_actions (viewers : List String) :
    Order.actions settings (.startDemoServer viewers) =
      [.stopDemoServer, .startDemoServer settings.vncPort settings.demoPort] := by
  simp [actions, script, List.filter_cons]
  rfl

/-- A machine only stops its server, whoever was let in before. -/
@[simp] theorem stopDemoServer_actions :
    Order.actions settings .stopDemoServer = [.stopDemoServer] :=
  rfl

/-- A machine is unlocked for the demo that it shows. -/
@[simp] theorem startDemoClient_actions (address : String) (fullscreen : Bool) :
    Order.actions settings (.startDemoClient address fullscreen) = [.stopDemo, .unlockScreen,
      .unlockInput, .startDemo address settings.demoPort fullscreen] :=
  rfl

/-- A machine only stops showing the demo. -/
@[simp] theorem stopDemoClient_actions : Order.actions settings .stopDemoClient = [.stopDemo] :=
  rfl

end Order

namespace Endpoint

/-- What a machine is told to do to serve a demo: nothing, if it is not ready. -/
def serveDemo (settings : Settings) (host : Endpoint) : List (String × Command) :=
  host.readyIp?.toList.flatMap fun ip =>
    [(ip, .stopDemoServer), (ip, .startDemoServer settings.vncPort settings.demoPort)]

/-- A machine serves the same whoever may watch. -/
@[simp] theorem unwatched_serveDemo (settings : Settings) (host : Endpoint) :
    host.unwatched.serveDemo settings = host.serveDemo settings := rfl

/-- What a machine is told to do to show the demo at an address. -/
def showDemo (settings : Settings) (roster : Roster) (address : String) (fullscreen : Bool)
    (client : Endpoint) : List (String × Command) :=
  [(client.ip, .stopDemo), (client.ip, .unlockScreen), (client.ip, .unlockInput),
    (client.ip, .startDemo address settings.demoPort (fullscreen && client.fillsScreen roster))]

end Endpoint

namespace Room

variable {settings : Settings} {room : Room}

/-- The endpoint of a name bears that name. -/
theorem name_of_endpoint? {name : String} {endpoint : Endpoint}
    (found : room.endpoint? name = some endpoint) : endpoint.name = name := by
  simpa using List.find?_some found

/-- An endpoint is found by its name. -/
theorem endpoint?_of_mem (distinct : (names room.endpoints).Nodup) {endpoint : Endpoint}
    (member : endpoint ∈ room.endpoints) : room.endpoint? endpoint.name = some endpoint := by
  -- Somebody of the name is there, and nobody else has it.
  cases found : room.endpoint? endpoint.name with
  | none =>
    have missed := List.find?_eq_none.mp found endpoint member
    simp at missed
  | some other =>
    have inside : other ∈ room.endpoints := List.mem_of_find?_eq_some found
    rw [eq_of_text_eq distinct inside member (name_of_endpoint? found)]

/-- Whoever watches a demo is a machine of the room that is ready. -/
theorem isReady_of_mem_audience {server : String} {client : Endpoint}
    (member : client ∈ room.audience server) :
    client ∈ room.endpoints ∧ client.isReady = true := by
  obtain ⟨inside, chosen⟩ := List.mem_filter.mp member
  simp only [Bool.and_eq_true] at chosen
  exact ⟨inside, chosen.2⟩

/-- Whoever watches a demo takes orders under its name. -/
theorem readyIp?_of_mem_audience (distinct : (names room.endpoints).Nodup) {server : String}
    {client : Endpoint} (member : client ∈ room.audience server) :
    room.readyIp? client.name = some client.ip := by
  obtain ⟨inside, ready⟩ := isReady_of_mem_audience member
  simp [readyIp?, endpoint?_of_mem distinct inside, Endpoint.readyIp?, ready]

/-- What is read off those who watch is the same whoever was let in before. -/
theorem audience_map_of_unwatched {α : Type} {after : Room}
    (same : after.unwatched = room.unwatched) (server : String) {read : Endpoint → α}
    (blind : ∀ endpoint : Endpoint, read endpoint.unwatched = read endpoint) :
    (after.audience server).map read = (room.audience server).map read := by
  have watching := congrArg (fun room : Room => (room.audience server).map read) same
  simpa only [unwatched_audience, List.map_map, Function.comp_def, blind] using watching

/-- Demos are ended by two orders, one for servers and one for clients. -/
theorem stopPlan_orders {recorded : Option String} {name : String} {order : Order}
    (planned : (name, order) ∈ room.stopPlan recorded) :
    order = .stopDemoServer ∨ order = .stopDemoClient := by
  simp only [stopPlan, List.mem_append, List.mem_map] at planned
  rcases planned with ⟨_, _, same⟩ | ⟨_, _, same⟩
  · exact .inl (congrArg Prod.snd same).symm
  · exact .inr (congrArg Prod.snd same).symm

/-- The orders that end demos have machines do nothing but end them. -/
theorem stopPlan_actions (regular : room.Regular) (recorded : Option String) :
    ∀ entry ∈ Trace.actions (room.performAll settings (room.stopPlan recorded)).2,
      entry.2.endsDemo = true := by
  intro entry member
  rw [performAll_actions regular] at member
  obtain ⟨⟨name, order⟩, planned, told⟩ := List.mem_flatMap.mp member
  obtain ⟨ip, _, there⟩ := List.mem_flatMap.mp told
  -- Every order of the plan ends the demo of one machine.
  rcases stopPlan_orders planned with rfl | rfl
  · have same : entry = (ip, .stopDemoServer) := by simpa using there
    rw [same]
    rfl
  · have same : entry = (ip, .stopDemo) := by simpa using there
    rw [same]
    rfl

/-- The orders that start a demo go to the server, if it is ready, and then to all who watch. -/
theorem startPlan_actions (regular : room.Regular) (roster : Roster) {server : String}
    {host : Endpoint} (found : room.endpoint? server = some host) (fullscreen : Bool) :
    Trace.actions (room.performAll settings
        (startPlan host (seated roster (room.audience server)).1 fullscreen)).2 =
      host.serveDemo settings ++
        (room.audience server).flatMap (Endpoint.showDemo settings roster host.ip fullscreen) := by
  -- The server is found under its own name, and each client under its.
  have own : room.readyIp? host.name = host.readyIp? := by
    rw [name_of_endpoint? found]
    simp [readyIp?, found]
  rw [performAll_actions regular, startPlan, (Roster.Agrees.refl roster).seated]
  simp only [List.flatMap_cons, own, List.map_map, List.flatMap_map, Order.startDemoServer_actions]
  -- The server is told the same on both sides; the rest goes to the clients.
  refine congrArg (host.serveDemo settings ++ ·) ?_
  simp only [List.flatMap_def]
  refine congrArg List.flatten (List.map_congr_left ?_)
  -- A client is ready, so it is told everything its order says.
  intro client member
  have ready := readyIp?_of_mem_audience regular.distinct member
  simp only [Function.comp_apply, ready, Option.toList_some, Order.startDemoClient_actions]
  rfl

end Room

namespace Supervisor

/-- The machines that a demo of a server would be shown on; none without such a server. -/
def audience (supervisor : Supervisor) (server : String) : List Endpoint :=
  match supervisor.room with
  | none => []
  | some room => if (room.endpoint? server).isSome then room.audience server else []

variable {settings : Settings} {supervisor : Supervisor} {active : Room} {server : String}

/-- Nobody watches a machine that is not there. -/
theorem audience_of_absent (absent : supervisor.endpoint? server = none) :
    supervisor.audience server = [] := by
  cases present : supervisor.room with
  | none => simp [audience, present]
  | some room =>
    have nobody : room.endpoint? server = none := by simpa [endpoint?, present] using absent
    simp [audience, present, nobody]

/-- Ending demos changes only whom machines let watch, and has machines do nothing else. -/
theorem stopDemoIfAny_pauses (regular : active.Regular) (present : supervisor.room = some active) :
    ∃ paused, (supervisor.stopDemoIfAny settings).supervisor.room = some paused ∧
      paused.unwatched = active.unwatched ∧
      ∀ entry ∈ Trace.actions (supervisor.stopDemoIfAny settings).trace,
        entry.2.endsDemo = true := by
  -- Demos are ended where one is recorded or shown, and else nothing happens.
  unfold stopDemoIfAny
  split
  · simp only [stopDemo, present]
    exact ⟨_, rfl, Room.performAll_unwatched settings _ regular.distinct,
      Room.stopPlan_actions regular _⟩
  · exact ⟨active, present, rfl, by simp⟩

/-- Whoever is not there before demos are ended is not there after it. -/
theorem stopDemoIfAny_absent (regular : ∀ active, supervisor.room = some active → active.Regular)
    (absent : supervisor.endpoint? server = none) :
    (supervisor.stopDemoIfAny settings).supervisor.endpoint? server = none := by
  cases present : supervisor.room with
  | none =>
    unfold stopDemoIfAny
    split <;> simp [stopDemo, present, endpoint?]
  | some active =>
    obtain ⟨paused, room, same, _⟩ :=
      @stopDemoIfAny_pauses settings supervisor active (regular active present) present
    have nobody : active.endpoint? server = none := by simpa [endpoint?, present] using absent
    have gone := congrArg (Room.endpoint? · server) same
    simp only [Room.unwatched_endpoint?, nobody, Option.map_none, Option.map_eq_none_iff] at gone
    simp [endpoint?, room, gone]

/-- A demo of a machine that is not there is not started: demos are ended at most. -/
theorem startDemo_of_absent (regular : ∀ active, supervisor.room = some active → active.Regular)
    (roster : Roster) (fullscreen : Bool)
    (absent : supervisor.endpoint? server = none) :
    supervisor.startDemo settings roster server fullscreen =
      (.error (.unknownEndpoint server), supervisor.stopDemoIfAny settings, roster) := by
  have missing := @stopDemoIfAny_absent settings supervisor server regular absent
  -- Without the server, the plan to start is never made.
  unfold startDemo
  cases room : (supervisor.stopDemoIfAny settings).supervisor.room with
  | none => simp [room]
  | some paused =>
    have nobody : paused.endpoint? server = none := by simpa [endpoint?, room] using missing
    simp [room, nobody]

/--
A demo of a machine of the room ends those before it, and is then started on the machine, if it is
ready, and on all who watch. The room changes only in whom its machines let watch.
-/
theorem startDemo_of_found (regular : active.Regular) (present : supervisor.room = some active)
    {host : Endpoint} (found : active.endpoint? server = some host) (roster : Roster)
    (fullscreen : Bool) :
    let outcome := supervisor.startDemo settings roster server fullscreen
    outcome.1 = .ok () ∧ outcome.2.1.supervisor.demoServer = some server ∧
      (∃ showing, outcome.2.1.supervisor.room = some showing ∧
        showing.unwatched = active.unwatched) ∧
      ∃ ended, (∀ entry ∈ ended, entry.2.endsDemo = true) ∧
        Trace.actions outcome.2.1.trace = ended ++ (host.serveDemo settings ++
          (active.audience server).flatMap
            (Endpoint.showDemo settings roster host.ip fullscreen)) := by
  intro outcome
  obtain ⟨paused, room, same, ending⟩ :=
    @stopDemoIfAny_pauses settings supervisor active regular present
  have orderly : paused.Regular := regular.of_unwatched same
  -- The server is still there, with other viewers perhaps.
  have there := congrArg (Room.endpoint? · server) same
  simp only [Room.unwatched_endpoint?, found, Option.map_some, Option.map_eq_some_iff] at there
  obtain ⟨server', located, alike⟩ := there
  have address : server'.ip = host.ip := congrArg (·.address.ip) alike
  have serving : server'.serveDemo settings = host.serveDemo settings := by
    simpa using congrArg (Endpoint.serveDemo settings) alike
  have showing : (paused.audience server).flatMap
      (Endpoint.showDemo settings roster server'.ip fullscreen) =
        (active.audience server).flatMap
          (Endpoint.showDemo settings roster host.ip fullscreen) := by
    -- Those who watch are the same too, and so is what they are told.
    have shown := @Room.audience_map_of_unwatched active _ paused same server
      (Endpoint.showDemo settings roster host.ip fullscreen) (fun _ => rfl)
    rw [address, List.flatMap_def, List.flatMap_def, shown]
  have actions := @Room.startPlan_actions settings paused orderly roster server server' located
    fullscreen
  rw [serving, showing] at actions
  simp only [outcome, startDemo, room, located, Option.bind_eq_bind, Option.bind_some,
    Option.pure_def, Trace.actions_append, actions]
  refine ⟨trivial, trivial, ⟨_, rfl, ?_⟩, _, ending, rfl⟩
  exact (Room.performAll_unwatched settings _ orderly.distinct).trans same

/-- Nothing is told to start in ending demos. -/
theorem stopDemoIfAny_starts (regular : ∀ active, supervisor.room = some active → active.Regular) :
    Trace.starts (supervisor.stopDemoIfAny settings).trace = [] := by
  cases present : supervisor.room with
  | none =>
    unfold stopDemoIfAny
    split <;> simp [stopDemo, present, Trace.starts]
  | some active =>
    obtain ⟨_, _, _, ending⟩ :=
      @stopDemoIfAny_pauses settings supervisor active (regular active present) present
    exact Trace.no_starts ending

/--
What is told to start when a demo of a machine is asked for: first its server, if it is ready, and
then the demo on each machine that can watch, in order.
-/
theorem startDemo_starts (regular : ∀ active, supervisor.room = some active → active.Regular)
    (roster : Roster) (fullscreen : Bool) :
    Trace.starts (supervisor.startDemo settings roster server fullscreen).2.1.trace =
      (supervisor.endpoint? server).toList.flatMap fun host =>
        (host.readyIp?.toList.map fun ip =>
          (ip, .startDemoServer settings.vncPort settings.demoPort)) ++
        (supervisor.audience server).map fun client =>
          (client.ip, .startDemo host.ip settings.demoPort
            (fullscreen && client.fillsScreen roster)) := by
  -- Ending the demos before starts nothing, so the start of this one is all there is.
  cases located : supervisor.endpoint? server with
  | none =>
    rw [startDemo_of_absent regular roster fullscreen located, stopDemoIfAny_starts regular]
    rfl
  | some host =>
    obtain ⟨active, present, found⟩ := Option.bind_eq_some_iff.mp located
    obtain ⟨_, _, _, ended, ending, told⟩ :=
      @startDemo_of_found settings supervisor active server (regular active present) present host
        found roster fullscreen
    rw [Trace.starts, told, List.filter_append, Trace.no_starts ending, List.nil_append,
      List.filter_append]
    have clients : supervisor.audience server = active.audience server := by
      simp [audience, present, found]
    simp only [Option.toList_some, List.flatMap_singleton, clients]
    -- The server is told to stop first, and a client to unlock: neither starts anything.
    congr 1
    · cases ready : host.readyIp? <;> simp [Endpoint.serveDemo, ready, Command.startsDemo]
    · rw [List.filter_flatMap, List.map_eq_flatMap]
      rfl

end Supervisor

/-- Settings to try a demo with. -/
def labSettings : Settings :=
  ⟨11100, 11400, 1000, 5000, 30000, 1000000000⟩

/-- A lab of three machines, and a single account, which is a teacher's. -/
def labRoster : Roster :=
  let machine (name ip : String) : Machine := ⟨"cn=" ++ name, name, [ip], [], none, .linux⟩
  let directory := Directory.empty.addRoom none ⟨"cn=lab", "lab", ["cn=pc01", "cn=pc02", "cn=pc03"]⟩
    |>.addMachine (machine "pc01" "10.0.0.11")
    |>.addMachine (machine "pc02" "10.0.0.12")
    |>.addMachine (machine "pc03" "10.0.0.13")
    |>.addAccount ⟨"cn=teach", "teach", true, []⟩
  ⟨directory, .new ⟨[], false⟩⟩

/-- Steps by which a machine becomes ready. -/
def becomeReady (name : String) : List ClassroomStep :=
  [.on name (.link .connected), .on name (.link .connected)]

namespace Classroom

variable (settings : Settings) (roster : Roster) (prober : Option Prober)
  (steps : List ClassroomStep) (server : String) (fullscreen : Bool)

/--
Starting a demo shows it once on each machine that can watch. It fills the screen there if that was
asked for and the machine has a user who is not found to teach; a lookup that fails or finds no
account tells of no teacher.
-/
theorem startDemo_shown :
    let room := (new settings roster prober).run steps
    let outcome := room.supervisor.startDemo room.world.settings room.world.roster server fullscreen
    Trace.shown outcome.2.1.trace =
        ((room.supervisor.audience server).map fun client =>
          (client.ip, fullscreen && client.fillsScreen room.world.roster)) ∧
      ∀ client : Endpoint, client.fillsScreen room.world.roster = true ↔
        ∃ user, client.username.current = some user ∧ Text.trim user ≠ "" ∧
          ∀ facts, (room.world.roster.get user).1 = .ok facts → facts.isTeacher = false := by
  intro room outcome
  refine ⟨?_, Endpoint.fillsScreen_iff room.world.roster⟩
  have regular : ∀ active, room.supervisor.room = some active → active.Regular :=
    fun active => run_regular settings roster prober steps
  -- Of what is started, the server alone shows nothing.
  rw [Trace.shown_eq, Supervisor.startDemo_starts regular]
  cases located : room.supervisor.endpoint? server with
  | none =>
    rw [Supervisor.audience_of_absent located]
    rfl
  | some host =>
    rw [Option.toList_some, List.flatMap_singleton, List.filterMap_append, List.filterMap_map,
      List.filterMap_map]
    -- All that the clients are told is shown.
    refine (congrArg₂ (· ++ ·) ?_ (congrFun List.filterMap_eq_map _)).trans (List.nil_append _)
    cases host.readyIp? <;> rfl

/--
The demo fills the screen of somebody without an account, and of a teacher while accounts cannot be
asked for.
-/
theorem startDemo_fills_unresolved :
    let room := (new labSettings labRoster none).run
      (.select "lab" :: (becomeReady "pc01" ++ becomeReady "pc02" ++ becomeReady "pc03" ++
        [.on "pc02" (.identity "guest" ""),
          .world (.change (.outage .user (some (.backend "down")))),
          .on "pc03" (.identity "teach" "")]))
    let outcome := room.supervisor.startDemo room.world.settings room.world.roster "pc01" true
    let resolved (user : String) : Bool :=
      (room.world.roster.get user).1.toOption.any (·.isResolved)
    (room.supervisor.endpoints.map fun endpoint => (endpoint.ip, endpoint.username.current)) =
        [("10.0.0.11", none), ("10.0.0.12", some "guest"), ("10.0.0.13", some "teach")] ∧
      resolved "guest" = false ∧ resolved "teach" = false ∧
      Trace.shown outcome.2.1.trace = [("10.0.0.12", true), ("10.0.0.13", true)] := by
  decide +kernel

/--
Before a demo is started on any client, it was started on the server if and only if the server was
ready.
-/
theorem startDemo_server_first {early late : Trace} {ip address : String} {port : Nat}
    {full : Bool} :
    let room := (new settings roster prober).run steps
    let outcome := room.supervisor.startDemo room.world.settings room.world.roster server fullscreen
    outcome.2.1.trace = early ++ (ip, .sent (.startDemo address port full)) :: late →
      ∃ host, room.supervisor.endpoint? server = some host ∧
        ((∃ vncPort demoPort, (host.ip, .sent (.startDemoServer vncPort demoPort)) ∈ early) ↔
          host.isReady = true) := by
  intro room outcome split
  have regular : ∀ active, room.supervisor.room = some active → active.Regular :=
    fun active => run_regular settings roster prober steps
  have told := @Supervisor.startDemo_starts room.world.settings room.supervisor server regular
    room.world.roster fullscreen
  have starting : (Command.startDemo address port full).startsDemo = true := rfl
  rw [split, Trace.starts_append, Trace.starts_cons_sent starting] at told
  cases located : room.supervisor.endpoint? server with
  | none => simp [located] at told
  | some host =>
    refine ⟨host, rfl, ?_⟩
    simp only [located, Option.toList_some, List.flatMap_singleton] at told
    by_cases ready : host.isReady = true
    · refine iff_of_true ?_ ready
      -- What is started first is the server, so it is started before the client.
      simp only [Endpoint.readyIp?, ready, if_true, Option.toList_some, List.map_cons,
        List.map_nil] at told
      cases before : Trace.starts early with
      | nil => simp [before] at told
      | cons first rest =>
        simp only [before, List.cons_append, List.cons.injEq] at told
        have member := @List.mem_cons_self _ first rest
        rw [← before, told.1] at member
        exact ⟨_, _, (Trace.mem_starts rfl).mp member⟩
    · refine iff_of_false ?_ ready
      -- All that is started is started on clients.
      rintro ⟨vncPort, demoPort, member⟩
      have inside : (host.ip, Command.startDemoServer vncPort demoPort) ∈ Trace.starts early :=
        (Trace.mem_starts rfl).mpr member
      have among := told ▸ List.mem_append_left _ inside
      simp [Endpoint.readyIp?, ready] at among

/-- The server that is ready is started before the one client of its demo. -/
theorem startDemo_server_first_ready :
    let steps := .select "lab" :: (becomeReady "pc01" ++ becomeReady "pc02")
    let room := (new labSettings labRoster none).run steps
    let outcome := room.supervisor.startDemo room.world.settings room.world.roster "pc01" true
    let early : Trace := [("10.0.0.11", .sent .stopDemoServer),
      ("10.0.0.11", .sent (.startDemoServer 11100 11400)),
      ("10.0.0.11", .sent (.allowHost "10.0.0.12")), ("10.0.0.12", .sent .stopDemo),
      ("10.0.0.12", .sent .unlockScreen), ("10.0.0.12", .sent .unlockInput)]
    outcome.2.1.trace =
        early ++ ("10.0.0.12", .sent (.startDemo "10.0.0.11" 11400 false)) :: [] ∧
      ∃ host, room.supervisor.endpoint? "pc01" = some host ∧
        ((∃ vncPort demoPort, ("10.0.0.11", .sent (.startDemoServer vncPort demoPort)) ∈ early) ↔
          host.isReady = true) := by
  intro steps room outcome early
  have split : outcome.2.1.trace =
      early ++ ("10.0.0.12", .sent (.startDemo "10.0.0.11" 11400 false)) :: [] := by
    decide +kernel
  obtain ⟨host, located, first⟩ :=
    startDemo_server_first labSettings labRoster none steps "pc01" true split
  have address : host.ip = "10.0.0.11" := by
    have placed : (room.supervisor.endpoint? "pc01").map (·.ip) = some "10.0.0.11" := by
      decide +kernel
    rw [located] at placed
    exact Option.some.inj placed
  rw [address] at first
  exact ⟨split, host, located, first⟩

/-- A machine is shown the demo of a server that is not ready, and is not started then. -/
theorem startDemo_unserved :
    let room := (new labSettings labRoster none).run (.select "lab" :: becomeReady "pc02")
    let outcome := room.supervisor.startDemo room.world.settings room.world.roster "pc01" true
    outcome.2.1.trace = [("10.0.0.12", .sent .stopDemo), ("10.0.0.12", .sent .unlockScreen),
      ("10.0.0.12", .sent .unlockInput),
      ("10.0.0.12", .sent (.startDemo "10.0.0.11" 11400 false))] := by
  decide +kernel

end Classroom

end ComputerRoom
