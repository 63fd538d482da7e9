import ComputerRoom.Proofs.Room.Broadcast

/-!
How a demo is started, command by command: its server starts anew and lets in just those who will
watch, and then each of them is told to watch.
-/

namespace ComputerRoom

/-- The trace in which commands are sent, each to its host. -/
def Trace.ofCommands (told : List (String × Command)) : Trace :=
  told.map fun (ip, command) => (ip, .sent command)

/-- Commands are sent in the order in which they are told. -/
@[simp] theorem Trace.ofCommands_append (early late : List (String × Command)) :
    ofCommands (early ++ late) = ofCommands early ++ ofCommands late :=
  List.map_append

namespace Script

/-- Viewers of whom nobody is in yet, and nobody is named twice, are all let in. -/
theorem allow_of_nodup {viewers ips : List String} (once : (viewers ++ ips).Nodup) :
    allow viewers ips = ⟨ips.map .allowHost, viewers ++ ips⟩ := by
  -- Whoever was let in before is among the viewers by the time the next one is looked at.
  induction ips generalizing viewers with
  | nil => simp [allow]
  | cons ip rest ih =>
    have fresh : ip ∉ viewers := by
      intro already
      exact (List.nodup_append.mp once).2.2 ip already ip List.mem_cons_self rfl
    have later := @ih (viewers ++ [ip]) (by simpa using once)
    simp [allow, fresh, later, after]

end Script

namespace Endpoint

variable {settings : Settings} {roster : Roster}

/-- What a server is told that starts anew for some viewers, and shuts out those before them. -/
def admitAll (settings : Settings) (viewers : List String) (host : Endpoint) : List Command :=
  [.stopDemoServer, .startDemoServer settings.vncPort settings.demoPort] ++
    host.viewers.map .denyHost ++ viewers.map .allowHost

/-- A server that is ready starts anew, and lets in just its new viewers. -/
theorem perform_startDemoServer {host : Endpoint} (lawful : host.link.Lawful)
    (ready : host.isReady = true) {viewers : List String} (once : viewers.Nodup) :
    (host.perform settings (.startDemoServer viewers)).2 =
      ⟨{ host with viewers }, (host.admitAll settings viewers).map .sent⟩ := by
  have up : host.state.current = .ready := by simpa [isReady] using ready
  rw [perform_of_ready _ up (channel_of_ready lawful ready)]
  have allowed := @Script.allow_of_nodup [] viewers once
  simp [Order.script, allowed, Script.denyAll, admitAll]

/-- A client that is ready is told to watch, and lets in whomever it did. -/
theorem perform_startDemoClient {client : Endpoint} (lawful : client.link.Lawful)
    (ready : client.isReady = true) (address : String) (fullscreen : Bool) :
    (client.perform settings
        (.startDemoClient address (fullscreen && client.fillsScreen roster))).2.trace =
      Trace.ofCommands (client.showDemo settings roster address fullscreen) := by
  have up : client.state.current = .ready := by simpa [isReady] using ready
  rw [perform_of_ready _ up (channel_of_ready lawful ready)]
  rfl

end Endpoint

namespace Room

variable {settings : Settings} {room : Room}

/-- An endpoint that is put back is found under its name; the others are found as they were. -/
theorem replace_endpoint? (room : Room) (after : Endpoint) (name : String) :
    (room.replace after).endpoint? name =
      (room.endpoint? name).map fun other => if other.name == after.name then after else other := by
  -- Whoever takes a place has the name that goes with it.
  simp only [endpoint?, replace, List.find?_map]
  congr 2
  funext other
  simp only [Function.comp_apply]
  split <;> simp_all

/-- An endpoint is found as it was put back. -/
theorem replace_endpoint?_self {name : String} {before after : Endpoint}
    (found : room.endpoint? name = some before) (named : after.name = before.name) :
    (room.replace after).endpoint? name = some after := by
  simp [replace_endpoint?, found, named]

/-- Whoever has another name is found as before. -/
theorem replace_endpoint?_of_ne {name : String} {after : Endpoint} (other : name ≠ after.name) :
    (room.replace after).endpoint? name = room.endpoint? name := by
  rw [replace_endpoint?]
  cases found : room.endpoint? name with
  | none => rfl
  | some endpoint => simp [name_of_endpoint? found, other]

/-- An order leaves the name of its endpoint alone. -/
theorem perform_name (settings : Settings) (order : Order) (endpoint : Endpoint) :
    (endpoint.perform settings order).2.endpoint.name = endpoint.name :=
  congrArg (·.machine.name) (@Endpoint.perform_unwatched settings endpoint order)

/-- Whoever is given no order is found as before. -/
theorem performAll_endpoint?_of_ne {name : String} {plan : List (String × Order)}
    (others : ∀ entry ∈ plan, entry.1 ≠ name) :
    (room.performAll settings plan).1.endpoint? name = room.endpoint? name := by
  -- Every order puts back an endpoint of the name that it was for.
  induction plan generalizing room with
  | nil => rfl
  | cons entry rest ih =>
    obtain ⟨first, later⟩ := List.forall_mem_cons.mp others
    obtain ⟨ordered, order⟩ := entry
    unfold performAll
    cases found : room.endpoint? ordered with
    | none => exact ih later
    | some endpoint =>
      refine (ih later).trans (replace_endpoint?_of_ne ?_)
      rw [perform_name, name_of_endpoint? found]
      exact first.symm

/-- Orders to different names are carried out as if each were the only one. -/
theorem performAll_trace {plan : List (String × Order)} (once : (plan.map (·.1)).Nodup) :
    (room.performAll settings plan).2 = plan.flatMap fun (name, order) =>
      (room.endpoint? name).toList.flatMap fun endpoint =>
        (endpoint.perform settings order).2.trace := by
  -- An order to one name changes nothing about who is found under the names to come.
  induction plan generalizing room with
  | nil => rfl
  | cons entry rest ih =>
    obtain ⟨name, order⟩ := entry
    obtain ⟨fresh, later⟩ := List.nodup_cons.mp once
    unfold performAll
    rw [List.flatMap_cons]
    cases found : room.endpoint? name with
    | none => simpa [found] using ih later
    | some endpoint =>
      have kept : ∀ entry ∈ rest,
          (room.replace (endpoint.perform settings order).2.endpoint).endpoint? entry.1 =
            room.endpoint? entry.1 := by
        intro entry member
        refine replace_endpoint?_of_ne ?_
        rw [perform_name, name_of_endpoint? found]
        rintro rfl
        exact fresh (List.mem_map.mpr ⟨entry, member, rfl⟩)
      simp only [ih later, found, Option.toList_some, List.flatMap_singleton]
      refine congrArg ((endpoint.perform settings order).2.trace ++ ·) ?_
      simp only [List.flatMap_def]
      refine congrArg List.flatten (List.map_congr_left fun entry member => ?_)
      rw [kept entry member]

/-- The machine that serves is not among those who watch, and nobody watches twice. -/
theorem startPlan_once (distinct : (names room.endpoints).Nodup) {server : String}
    {host : Endpoint} (found : room.endpoint? server = some host) (roster : Roster)
    (fullscreen : Bool) :
    ((startPlan host (seated roster (room.audience server)).1 fullscreen).map (·.1)).Nodup := by
  rw [startPlan, (Roster.Agrees.refl roster).seated]
  simp only [List.map_cons, List.map_map, Function.comp_def]
  -- Those who watch keep their distinct names, and were chosen for not having the server's.
  refine List.nodup_cons.mpr ⟨?_, (List.filter_sublist.map _).nodup distinct⟩
  intro watching
  obtain ⟨client, member, same⟩ := List.mem_map.mp watching
  obtain ⟨_, chosen⟩ := List.mem_filter.mp member
  simp [same, name_of_endpoint? found] at chosen

/-- A demo is started on a server that is ready, and then on each machine that watches. -/
theorem performAll_startPlan (regular : room.Regular) (apart : (room.endpoints.map (·.ip)).Nodup)
    {server : String} {host : Endpoint} (found : room.endpoint? server = some host)
    (ready : host.isReady = true) (roster : Roster) (fullscreen : Bool) :
    let viewers := (room.audience server).map (·.ip)
    let after := room.performAll settings
      (startPlan host (seated roster (room.audience server)).1 fullscreen)
    after.2 = Trace.ofCommands
        ((host.admitAll settings viewers).map (fun command => (host.ip, command)) ++
          (room.audience server).flatMap (Endpoint.showDemo settings roster host.ip fullscreen)) ∧
      (after.1.endpoint? server).map (·.viewers) = some viewers := by
  intro viewers after
  have named := name_of_endpoint? found
  have once := startPlan_once regular.distinct found roster fullscreen
  have addresses : viewers.Nodup := (List.filter_sublist.map _).nodup apart
  have lawful := regular.lawful host (List.mem_of_find?_eq_some found)
  have served := @Endpoint.perform_startDemoServer settings host lawful ready viewers addresses
  -- Looking up one user after the other answers as if each were the first.
  have seats := (Roster.Agrees.refl roster).seated (room.audience server)
  have planned : startPlan host (seated roster (room.audience server)).1 fullscreen =
      (host.name, .startDemoServer viewers) :: (room.audience server).map fun client =>
        (client.name, .startDemoClient host.ip (fullscreen && client.fillsScreen roster)) := by
    rw [startPlan, seats]
    simp only [List.map_map, Function.comp_def]
    rfl
  constructor
  · -- The server is found under its name, and each client under its own.
    rw [performAll_trace once, planned, List.flatMap_cons, List.flatMap_map,
      Trace.ofCommands_append]
    congr 1
    · simp only [named, found, Option.toList_some, List.flatMap_singleton, served]
      simp [Reaction.trace, Trace.ofCommands, Function.comp_def, Endpoint.ip]
    · -- A client is ready, so it is told all of what makes it watch.
      rw [Trace.ofCommands, List.map_flatMap]
      simp only [List.flatMap_def]
      refine congrArg List.flatten (List.map_congr_left fun client member => ?_)
      obtain ⟨inside, up⟩ := isReady_of_mem_audience member
      have told := @Endpoint.perform_startDemoClient settings roster client
        (regular.lawful client inside) up host.ip fullscreen
      rw [endpoint?_of_mem regular.distinct inside]
      simpa [Trace.ofCommands] using told
  · -- The orders to clients go to other names, so the server stays as it was put back.
    rw [planned] at once
    obtain ⟨fresh, _⟩ := List.nodup_cons.mp once
    have others : ∀ entry ∈ (room.audience server).map (fun client =>
        (client.name, Order.startDemoClient host.ip (fullscreen && client.fillsScreen roster))),
        entry.1 ≠ server := by
      intro entry member same
      exact fresh (List.mem_map.mpr ⟨entry, member, same.trans named.symm⟩)
    have placed := @replace_endpoint?_self room server host
      (host.perform settings (.startDemoServer viewers)).2.endpoint found (perform_name ..)
    simp only [after, planned, performAll, named, found]
    rw [performAll_endpoint?_of_ne others, placed, served]
    rfl

end Room

namespace Supervisor

variable {settings : Settings} {supervisor : Supervisor} {active : Room} {server : String}

/-- A demo whose server is ready is started after those before it have ended, command by command. -/
theorem startDemo_of_ready (regular : active.Regular) (present : supervisor.room = some active)
    (apart : (active.endpoints.map (·.ip)).Nodup) {host : Endpoint}
    (found : active.endpoint? server = some host) (ready : host.isReady = true) (roster : Roster)
    (fullscreen : Bool) :
    let ended := supervisor.stopDemoIfAny settings
    let outcome := supervisor.startDemo settings roster server fullscreen
    let viewers := (active.audience server).map (·.ip)
    ∃ paused, ended.supervisor.endpoint? server = some paused ∧ paused.unwatched = host.unwatched ∧
      outcome.2.1.trace = ended.trace ++ Trace.ofCommands
        ((paused.admitAll settings viewers).map (fun command => (host.ip, command)) ++
          (active.audience server).flatMap
            (Endpoint.showDemo settings roster host.ip fullscreen)) ∧
      (outcome.2.1.supervisor.endpoint? server).map (·.viewers) = some viewers := by
  intro ended outcome viewers
  obtain ⟨paused, room, same, _⟩ := @stopDemoIfAny_pauses settings supervisor active regular present
  -- The server is still there, with other viewers perhaps.
  have there := congrArg (Room.endpoint? · server) same
  simp only [Room.unwatched_endpoint?, found, Option.map_some, Option.map_eq_some_iff] at there
  obtain ⟨server', located, alike⟩ := there
  have address : server'.ip = host.ip := congrArg (·.address.ip) alike
  have up : server'.isReady = true := by
    rw [← server'.unwatched_isReady, alike]
    exact ready
  -- So are those who watch.
  have ips := Room.audience_map_of_unwatched same server (fun endpoint => endpoint.unwatched_ip)
  have shown := @Room.audience_map_of_unwatched active _ paused same server
    (Endpoint.showDemo settings roster host.ip fullscreen) (fun _ => rfl)
  have addresses : (paused.endpoints.map (·.ip)).Nodup :=
    (congrArg List.Nodup (Room.map_of_unwatched same Endpoint.unwatched_ip)).mpr apart
  obtain ⟨trace, admitted⟩ := @Room.performAll_startPlan settings paused
    (regular.of_unwatched same) addresses server server' located up roster fullscreen
  -- Orders are given in the room after the end, and told of by the addresses from before.
  refine ⟨server', by simp [ended, endpoint?, room, located], alike, ?_, ?_⟩
  · simp only [outcome, startDemo, room, located, Option.bind_eq_bind, Option.bind_some,
      Option.pure_def, trace]
    simp only [address, List.flatMap_def, shown, ips, ended]
    rfl
  · simp only [outcome, startDemo, room, located, Option.bind_eq_bind, Option.bind_some,
      Option.pure_def, endpoint?]
    exact admitted.trans (congrArg some ips)

/-- A demo of a machine that is not there ends those before it, and fails with none recorded. -/
theorem startDemo_of_unknown (regular : ∀ active, supervisor.room = some active → active.Regular)
    (roster : Roster) (fullscreen : Bool) (absent : supervisor.endpoint? server = none) :
    let outcome := supervisor.startDemo settings roster server fullscreen
    outcome.1 = .error (.unknownEndpoint server) ∧
      outcome.2.1.trace = (supervisor.stopDemoIfAny settings).trace ∧
      outcome.2.1.supervisor.demoServer = none := by
  intro outcome
  have failed : outcome = _ := startDemo_of_absent regular roster fullscreen absent
  rw [failed]
  refine ⟨rfl, rfl, ?_⟩
  -- A server that is recorded is reason enough to end demos, which forgets it.
  unfold stopDemoIfAny
  split
  · unfold stopDemo
    split <;> rfl
  · rename_i idle
    simp only [Bool.or_eq_true, not_or, Option.not_isSome_iff_eq_none] at idle
    exact idle.1

end Supervisor

end ComputerRoom
