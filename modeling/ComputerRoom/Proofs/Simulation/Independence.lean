import Mathlib.Data.List.Induction
import ComputerRoom.Proofs.Simulation.Lookups
import ComputerRoom.Proofs.Simulation.Relay

/-!
Machines do not interfere: what becomes of each of them, of its agent and of its notices is told by
its own events, however these are mixed with those of other machines.
-/

namespace ComputerRoom

/-- The machine that a notice is about. -/
def Notice.source : Notice → String
  | .connected name | .identity name _ | .flagChanged name _ _ => name

/-- The notice that an effect publishes, if it publishes one. -/
def Effect.notice? : Effect → Option Notice
  | .published notice => some notice
  | _ => none

/-- What a reaction publishes, in order. -/
def Reaction.notices (reaction : Reaction) : List Notice :=
  reaction.effects.filterMap (·.notice?)

/-- The notices of a reaction are those that a report of it tells. -/
theorem Report.noticesOf_trace (reaction : Reaction) :
    Report.noticesOf reaction.trace = reaction.notices := by
  -- The host that stands beside each effect is not looked at.
  rw [Report.noticesOf, Reaction.trace, List.filterMap_map]
  refine congrArg (fun read => List.filterMap read reaction.effects) (funext fun effect => ?_)
  cases effect <;> rfl

/-- The events of one machine among those of several, in order. -/
def eventsOf (name : String) (events : List (String × Signal)) : List Signal :=
  (events.filter fun event => event.1 == name).map (·.2)

section EventsOf

variable {name : String} {events first second : List (String × Signal)}

/-- Without any event a machine has none. -/
@[simp] theorem eventsOf_nil (name : String) : eventsOf name [] = [] := rfl

/-- A further event of a machine comes after those it has. -/
theorem eventsOf_concat_self (name : String) (events : List (String × Signal)) (event : Signal) :
    eventsOf name (events ++ [(name, event)]) = eventsOf name events ++ [event] := by
  simp [eventsOf]

/-- An event of another machine is none of its own. -/
theorem eventsOf_concat_of_ne {other : String} (differs : name ≠ other)
    (events : List (String × Signal)) (event : Signal) :
    eventsOf name (events ++ [(other, event)]) = eventsOf name events := by
  simp [eventsOf, Ne.symm differs]

/-- Orders in which every machine has the same events are permutations of each other. -/
theorem perm_of_eventsOf (same : ∀ name, eventsOf name first = eventsOf name second) :
    first.Perm second := by
  -- Every event is counted among those of its machine.
  have tagged : ∀ (name : String) (events : List (String × Signal)),
      (events.filter fun event => event.1 == name) = (eventsOf name events).map (name, ·) := by
    intro name events
    rw [eventsOf, List.map_map]
    refine (List.map_id _).symm.trans (List.map_congr_left fun event member => ?_)
    have own : event.1 = name := by simpa using (List.mem_filter.mp member).2
    exact Prod.ext own rfl
  have counted : ∀ (event : String × Signal) (events : List (String × Signal)),
      events.count event = ((eventsOf event.1 events).map (event.1, ·)).count event := by
    intro event events
    rw [← tagged]
    refine (@List.count_filter _ _ _ (fun other => other.1 == event.1) event events ?_).symm
    exact beq_self_eq_true event.1
  refine List.perm_iff_count.mpr fun event => ?_
  rw [counted event first, counted event second, same]

end EventsOf

namespace Endpoint

variable {settings : Settings} {endpoint : Endpoint} {roster other : Roster}

/-- The reaction of an endpoint to events of its session, at one time and with one roster. -/
def answers (world : World) (endpoint : Endpoint) (events : List Signal) : Reaction :=
  endpoint.run world.settings (events.map (.event world.now world.roster endpoint.session))

/-- Taking an event leaves the session as it is. -/
theorem handle_session (settings : Settings) (now : Nat) (roster : Roster) (session : SessionId)
    (event : Signal) (endpoint : Endpoint) :
    (endpoint.handle settings now roster session event).reaction.endpoint.session =
      endpoint.session := by
  -- Only opening the link makes a new session, and no event opens it.
  unfold handle
  split
  · rfl
  · cases event with
    | state status =>
      by_cases up : status = .connected
      · subst up
        simp only [takeLink, Connection.ofLink, takeLinkUp]
        split
        · rfl
        · split <;> rfl
        · split <;> rfl
      · simp only [takeLink_of_ne_connected settings now endpoint up]
        exact congrArg Link.session (takeLinkDown_link (.ofLink status) endpoint)
    | identity username homeFolder =>
      exact congrArg Link.session (takeIdentity_talks now _ username homeFolder endpoint).link_eq
    | flags mask => exact congrArg Link.session (takeFlags_talks mask endpoint).link_eq

/-- Rosters that agree lead to the same reaction, and still agree after it. -/
theorem handle_of_agrees (agrees : roster.Agrees other) (settings : Settings) (now : Nat)
    (session : SessionId) (event : Signal) (endpoint : Endpoint) :
    (endpoint.handle settings now other session event).reaction =
        (endpoint.handle settings now roster session event).reaction ∧
      roster.Agrees (endpoint.handle settings now other session event).roster := by
  -- Rosters are looked at for an answer about the user only.
  unfold handle
  split
  · exact ⟨rfl, agrees⟩
  · cases event with
    | state | flags => exact ⟨rfl, agrees⟩
    | identity username homeFolder =>
      obtain ⟨same, still⟩ := agrees.facts? (nonEmpty? username)
      refine ⟨?_, still⟩
      simp only [identify, Roster.isTeacher, same]

/-- Commands are no notices. -/
theorem send_notices (endpoint : Endpoint) (commands : List Command) :
    (endpoint.send commands).notices = [] := by
  -- Whatever is sent, every effect is a command.
  unfold send
  split <;> simp [Reaction.notices, Effect.notice?]

/-- Whatever an endpoint publishes when it takes an event is about its own machine. -/
theorem handle_notices_source (settings : Settings) (now : Nat) (roster : Roster)
    (session : SessionId) (event : Signal) (endpoint : Endpoint) :
    ∀ notice ∈ (endpoint.handle settings now roster session event).reaction.notices,
      notice.source = endpoint.name := by
  -- Each kind of event has one kind of notice, if any.
  unfold handle
  split
  · simp [Reaction.notices]
  · cases event with
    | state status =>
      by_cases up : status = .connected
      · subst up
        simp only [takeLink, Connection.ofLink, takeLinkUp]
        split
        · simp [Reaction.notices]
        · split <;> simp [Reaction.notices, Effect.notice?]
        · split <;> simp [Reaction.notices, Effect.notice?, Notice.source]
      · simp only [takeLink_of_ne_connected settings now endpoint up]
        simp [Reaction.notices]
    | identity username homeFolder =>
      -- What is asked of the machine is no notice, and the news about the user names the machine.
      have asked : ∀ (informed : Endpoint) (asking : Bool),
          (if asking then informed.send [.requestFlags] else ⟨informed, []⟩ : Reaction).notices =
            [] := by
        intro informed asking
        cases asking with
        | false => rfl
        | true => exact send_notices informed _
      have quiet := asked { endpoint with
        lastResponse := now
        username := endpoint.username.set (nonEmpty? username)
        homeFolder := endpoint.homeFolder.set (nonEmpty? homeFolder)
        teacher := endpoint.teacher.set (roster.isTeacher (nonEmpty? username)).1 }
        (nonEmpty? username).isSome
      simp only [Reaction.notices, identify, takeIdentity] at quiet ⊢
      split
      · simp [quiet]
      · rw [List.filterMap_append, quiet]
        simp [Effect.notice?, Notice.source]
    | flags mask =>
      intro notice member
      simp only [Reaction.notices, takeFlags, List.filterMap_map, List.mem_filterMap] at member
      obtain ⟨flip, _, same⟩ := member
      obtain rfl := Option.some.inj same
      rfl

/-- Events leave the session as it is. -/
theorem answers_session (world : World) (endpoint : Endpoint) (events : List Signal) :
    (endpoint.answers world events).endpoint.session = endpoint.session := by
  -- The session that the events bear stays the same while the endpoint goes on.
  have kept : ∀ (session : SessionId) (events : List Signal) (endpoint : Endpoint),
      (endpoint.run world.settings
        (events.map (.event world.now world.roster session))).endpoint.session =
        endpoint.session := by
    intro session events
    induction events with
    | nil => exact fun _ => rfl
    | cons event rest ih => exact fun endpoint => (ih _).trans (handle_session ..)
  exact kept endpoint.session events endpoint

/-- A further event is taken as the events before it have left the endpoint. -/
theorem answers_concat (world : World) (endpoint : Endpoint) (events : List Signal)
    (event : Signal) :
    endpoint.answers world (events ++ [event]) =
      (endpoint.answers world events).andThen fun next =>
        (next.handle world.settings world.now world.roster next.session event).reaction := by
  have session := endpoint.answers_session world events
  simp only [answers, List.map_append, List.map_singleton, run_append, run_singleton, operate,
    Reaction.andThen] at session ⊢
  rw [session]

/-- Events change neither the name of an endpoint nor its address. -/
theorem answers_place (world : World) (endpoint : Endpoint) (events : List Signal) :
    (endpoint.answers world events).endpoint.name = endpoint.name ∧
      (endpoint.answers world events).endpoint.ip = endpoint.ip :=
  ⟨run_name world.settings endpoint _, run_ip world.settings endpoint _⟩

end Endpoint

/-- The endpoint of a name is one of those of the active room, and bears that name. -/
theorem Supervisor.of_endpoint? {supervisor : Supervisor} {name : String} {endpoint : Endpoint}
    (found : supervisor.endpoint? name = some endpoint) :
    endpoint ∈ supervisor.endpoints ∧ endpoint.name = name := by
  obtain ⟨active, present, inside⟩ := Option.bind_eq_some_iff.mp found
  have member : endpoint ∈ active.endpoints := List.mem_of_find?_eq_some inside
  exact ⟨by simpa [endpoints, present] using member, Room.name_of_endpoint? inside⟩

namespace Classroom

/-- Steps that bring events to machines, each as one of the session that the machine has then. -/
def reporting (events : List (String × Signal)) : List ClassroomStep :=
  events.map fun (name, event) => .on name (.event event .current)

/-- All that is published during some steps, in order. -/
def notices (room : Classroom) : List ClassroomStep → List Notice
  | [] => []
  | step :: rest => (room.take step).1.notices ++ (room.take step).2.notices rest

/-- The reaction of an endpoint to its own events among those of several. -/
def answersOf (start : Classroom) (events : List (String × Signal)) (endpoint : Endpoint) :
    Reaction :=
  endpoint.answers start.world (eventsOf endpoint.name events)

/-- The users who are named to machines of the active room. -/
def namedUsers (start : Classroom) (events : List (String × Signal)) : List String :=
  events.filterMap fun (name, event) =>
    if (start.supervisor.endpoint? name).isSome then event.user? else none

/-- The reaction of an endpoint to a further event, after its own ones among several. -/
def answerNext (start : Classroom) (events : List (String × Signal)) (event : Signal)
    (endpoint : Endpoint) : Reaction :=
  let heard := (start.answersOf events endpoint).endpoint
  (heard.handle start.world.settings start.world.now start.world.roster heard.session
    event).reaction

/-- What the endpoint of a host does about its own events. -/
def effectsOn (start : Classroom) (events : List (String × Signal)) (host : String) :
    List Effect :=
  match start.supervisor.endpoints.find? fun endpoint => endpoint.ip == host with
  | none => []
  | some endpoint => (start.answersOf events endpoint).effects

/-- What the endpoint of a name publishes about its own events. -/
def noticesOf (start : Classroom) (events : List (String × Signal)) (name : String) :
    List Notice :=
  match start.supervisor.endpoint? name with
  | none => []
  | some endpoint => (start.answersOf events endpoint).notices

/-- A classroom in which every endpoint, and its agent, went through its own events. -/
structure Heard (start : Classroom) (events : List (String × Signal)) (room : Classroom) :
    Prop where
  now : room.world.now = start.world.now
  settings : room.world.settings = start.world.settings
  roster : start.world.roster.Agrees room.world.roster
  supervisor : room.supervisor = withEndpoints start.supervisor
    (start.supervisor.endpoints.map fun endpoint => (start.answersOf events endpoint).endpoint)
  held : room.held = start.held
  agents : ∀ host, room.world.agents.onHost host =
    (start.effectsOn events host).foldl Agent.observe (start.world.agents.onHost host)

variable {start room : Classroom} {events : List (String × Signal)} {name : String}
  {endpoint : Endpoint}

/-- An event of another machine is nothing to an endpoint. -/
theorem answersOf_concat_of_ne (differs : endpoint.name ≠ name) (event : Signal) :
    start.answersOf (events ++ [(name, event)]) endpoint = start.answersOf events endpoint := by
  rw [answersOf, eventsOf_concat_of_ne differs]
  rfl

/-- An endpoint takes a further event of its own after those it took already. -/
theorem answersOf_concat_self (named : endpoint.name = name) (event : Signal) :
    start.answersOf (events ++ [(name, event)]) endpoint =
      (start.answersOf events endpoint).andThen fun _ =>
        start.answerNext events event endpoint := by
  subst named
  rw [answersOf, eventsOf_concat_self, Endpoint.answers_concat]
  rfl

/-- Neither name nor address change with a further event. -/
theorem answerNext_place (start : Classroom) (events : List (String × Signal)) (event : Signal)
    (endpoint : Endpoint) :
    (start.answerNext events event endpoint).endpoint.name = endpoint.name ∧
      (start.answerNext events event endpoint).endpoint.ip = endpoint.ip := by
  -- A lawful move changes neither machine nor address.
  let heard := (start.answersOf events endpoint).endpoint
  obtain ⟨name, ip⟩ := endpoint.answers_place start.world (eventsOf endpoint.name events)
  have moves := heard.handle_moves start.world.settings start.world.now start.world.roster
    heard.session event
  exact ⟨(congrArg Machine.name moves.machine_eq).trans name,
    (congrArg Address.ip moves.address_eq).trans ip⟩

/-- What is done on a host is done by the one endpoint there, if the event is for its machine. -/
theorem effectsOn_concat (distinct : (names start.supervisor.endpoints).Nodup)
    (apart : (start.supervisor.endpoints.map (·.ip)).Nodup)
    (member : endpoint ∈ start.supervisor.endpoints) (event : Signal) (host : String) :
    start.effectsOn (events ++ [(endpoint.name, event)]) host = start.effectsOn events host ++
      if endpoint.ip = host then (start.answerNext events event endpoint).effects else [] := by
  -- The endpoint of the host is the one that the event is for, or bears another name.
  unfold effectsOn
  cases found : start.supervisor.endpoints.find? fun endpoint => endpoint.ip == host with
  | none =>
    have elsewhere : endpoint.ip ≠ host := by
      simpa using List.find?_eq_none.mp found endpoint member
    simp [elsewhere]
  | some other =>
    have inside := List.mem_of_find?_eq_some found
    have there : other.ip = host := by simpa using List.find?_some found
    by_cases here : endpoint.ip = host
    · -- Nobody else is on this host.
      obtain rfl := eq_of_text_eq apart inside member (there.trans here.symm)
      simp [answersOf_concat_self, Reaction.andThen, here]
    · have differs : other.name ≠ endpoint.name := by
        intro same
        obtain rfl := eq_of_text_eq distinct inside member same
        exact here there
      simp [answersOf_concat_of_ne differs, here]

/-- What is published about a machine is published by its endpoint, if the event is for it. -/
theorem noticesOf_concat (found : start.supervisor.endpoint? name = some endpoint)
    (event : Signal) (other : String) :
    start.noticesOf (events ++ [(name, event)]) other = start.noticesOf events other ++
      if name = other then (start.answerNext events event endpoint).notices else [] := by
  -- Names are what endpoints are found by.
  unfold noticesOf
  by_cases own : name = other
  · subst own
    have named : endpoint.name = name := (Supervisor.of_endpoint? found).2
    simp [found, answersOf_concat_self named, Reaction.andThen, Reaction.notices]
  · cases elsewhere : start.supervisor.endpoint? other with
    | none => simp [own]
    | some stranger =>
      have differs : stranger.name ≠ name := by
        rw [(Supervisor.of_endpoint? elsewhere).2]
        exact Ne.symm own
      simp [answersOf_concat_of_ne differs, own]

/-- Events keep every endpoint under its name. -/
theorem Heard.endpoint? (heard : start.Heard events room) (name : String) :
    room.supervisor.endpoint? name = (start.supervisor.endpoint? name).map fun endpoint =>
      (start.answersOf events endpoint).endpoint := by
  -- Endpoints stand in their old places, each under its own name.
  rw [heard.supervisor]
  simp only [withEndpoints, Supervisor.endpoint?, Supervisor.endpoints]
  cases start.supervisor.room with
  | none => rfl
  | some active =>
    have named : ∀ endpoint : Endpoint,
        (start.answersOf events endpoint).endpoint.name = endpoint.name :=
      fun endpoint => (endpoint.answers_place start.world _).1
    have alike : ((·.name == name) ∘ fun endpoint => (start.answersOf events endpoint).endpoint) =
        (·.name == name) := funext fun endpoint => congrArg (· == name) (named endpoint)
    simp only [Option.map_some, Option.bind_some, Room.endpoint?, List.find?_map, alike]

/-- An event for nobody does nothing. -/
theorem take_event_of_missing (missing : room.supervisor.endpoint? name = none) (event : Signal) :
    room.take (.on name (.event event .current)) = (.new .absent [] [], room) := by
  simp [take, takeOn, missing]

/-- An event of the current session is taken by the endpoint of its machine. -/
theorem take_event (found : room.supervisor.endpoint? name = some endpoint) (event : Signal) :
    let taken := endpoint.handle room.world.settings room.world.now room.world.roster
      endpoint.session event
    let trace := taken.reaction.trace
    room.take (.on name (.event event .current)) = (.new .nothing trace [], { room with
      world := { room.world with roster := taken.roster }.observe trace
      supervisor := { room.supervisor with
        room := room.supervisor.room.map (·.replace taken.reaction.endpoint) } }) := by
  simp [take, takeOn, found, Endpoint.take, EndpointTurn.ofConsulted, SessionChoice.resolve,
    afterEndpointTurn]

/-- A room whose endpoints are put in their own places stays as it is. -/
theorem withEndpoints_self (supervisor : Supervisor) :
    withEndpoints supervisor supervisor.endpoints = supervisor := by
  obtain ⟨school, active, demoServer, created⟩ := supervisor
  cases active <;> rfl

/-- An endpoint that is put in its place among those that others became is one of them. -/
theorem withEndpoints_replace {supervisor : Supervisor} {before after : Endpoint → Endpoint}
    {put : Endpoint}
    (each : ∀ endpoint ∈ supervisor.endpoints,
      (if (before endpoint).name == put.name then put else before endpoint) = after endpoint) :
    let became := withEndpoints supervisor (supervisor.endpoints.map before)
    { became with room := became.room.map (·.replace put) } =
      withEndpoints supervisor (supervisor.endpoints.map after) := by
  obtain ⟨school, active, demoServer, created⟩ := supervisor
  cases active with
  | none => rfl
  | some active =>
    have placed : (active.endpoints.map before).map
        (fun other => if other.name == put.name then put else other) =
        active.endpoints.map after := by
      rw [List.map_map]
      exact List.map_congr_left each
    simp only [withEndpoints, Supervisor.endpoints, Option.map_some, Room.replace, placed]

/-- Without an event a classroom is as it was. -/
theorem Heard.nothing (start : Classroom) : start.Heard [] start := by
  -- Nobody has anything to answer.
  refine ⟨rfl, rfl, .refl _, ?_, rfl, fun host => ?_⟩
  · have same : (start.supervisor.endpoints.map fun endpoint =>
        (start.answersOf [] endpoint).endpoint) = start.supervisor.endpoints :=
      List.map_id _
    rw [same, withEndpoints_self]
  · unfold effectsOn
    split <;> rfl

/-- An event for nobody is nothing to any endpoint. -/
theorem Heard.concat_of_missing (heard : start.Heard events room)
    (missing : start.supervisor.endpoint? name = none) (event : Signal) :
    start.Heard (events ++ [(name, event)]) room ∧
      ∀ other, start.noticesOf (events ++ [(name, event)]) other =
        start.noticesOf events other := by
  -- Nobody in the room bears the name, so that nobody has one more event.
  have same : ∀ endpoint ∈ start.supervisor.endpoints,
      start.answersOf (events ++ [(name, event)]) endpoint = start.answersOf events endpoint :=
    fun endpoint member =>
      answersOf_concat_of_ne (Supervisor.name_ne_of_missing missing member) event
  refine ⟨⟨heard.now, heard.settings, heard.roster, ?_, heard.held, fun host => ?_⟩,
    fun other => ?_⟩
  · rw [heard.supervisor]
    refine congrArg (withEndpoints start.supervisor) (List.map_congr_left fun endpoint member => ?_)
    rw [same endpoint member]
  · rw [heard.agents]
    unfold effectsOn
    cases found : start.supervisor.endpoints.find? fun endpoint => endpoint.ip == host with
    | none => rfl
    | some endpoint => simp only [same endpoint (List.mem_of_find?_eq_some found)]
  · unfold noticesOf
    cases found : start.supervisor.endpoint? other with
    | none => rfl
    | some endpoint => simp only [same endpoint (Supervisor.of_endpoint? found).1]

/-- An event for a machine of the room is heard by its endpoint, and by nobody else. -/
theorem Heard.concat (heard : start.Heard events room)
    (distinct : (names start.supervisor.endpoints).Nodup)
    (apart : (start.supervisor.endpoints.map (·.ip)).Nodup)
    (found : start.supervisor.endpoint? name = some endpoint) (event : Signal) :
    let taken := room.take (.on name (.event event .current))
    start.Heard (events ++ [(name, event)]) taken.2 ∧
      taken.1.notices = (start.answerNext events event endpoint).notices := by
  intro taken
  obtain ⟨member, named⟩ := Supervisor.of_endpoint? found
  have present : room.supervisor.endpoint? name =
      some (start.answersOf events endpoint).endpoint := by
    rw [heard.endpoint?, found, Option.map_some]
  have done := take_event present event
  -- Whoever was looked up before, the roster tells of the user what it told at first.
  obtain ⟨told, agrees⟩ := Endpoint.handle_of_agrees heard.roster start.world.settings
    start.world.now (start.answersOf events endpoint).endpoint.session event
    (start.answersOf events endpoint).endpoint
  have same : _ = start.answerNext events event endpoint := told
  simp only [heard.now, heard.settings, same] at done
  obtain ⟨placed, ip⟩ := start.answerNext_place events event endpoint
  have called : (start.answerNext events event endpoint).endpoint.name = name :=
    placed.trans named
  simp only [taken, done]
  refine ⟨⟨rfl, rfl, agrees, ?_, heard.held, fun host => ?_⟩, Report.noticesOf_trace _⟩
  · rw [heard.supervisor]
    refine withEndpoints_replace fun other inside => ?_
    have kept : (start.answersOf events other).endpoint.name = other.name :=
      (other.answers_place start.world _).1
    by_cases own : other.name = name
    · -- Nobody else bears this name.
      obtain rfl := eq_of_text_eq distinct inside member (own.trans named.symm)
      rw [if_pos (by simpa [kept, own] using called.symm), answersOf_concat_self own]
      rfl
    · rw [if_neg (by simpa [kept, own] using fun same => own (same.trans called)),
        answersOf_concat_of_ne own]
  · have more := @effectsOn_concat start events endpoint distinct apart member event host
    rw [named] at more
    rw [more, List.foldl_append, ← heard.agents]
    simp only [World.observe]
    rw [Agents.onHost_observe, Trace.onHost_reaction, ip]

/-- Notices of the second part of a run come after those of the first. -/
theorem notices_append (room : Classroom) (first second : List ClassroomStep) :
    room.notices (first ++ second) = room.notices first ++ (room.run first).notices second := by
  induction first generalizing room with
  | nil => rfl
  | cons step rest ih =>
    rw [List.cons_append, notices, ih, notices, List.append_assoc]
    rfl

/-- An event looks up the user whom it names to a machine of the room. -/
theorem history_event (heard : start.Heard events room) (name : String) (event : Signal) :
    room.history [.on name (.event event .current)] =
      (start.namedUsers [(name, event)]).map .get := by
  -- The event belongs to the current session, so that it is not dropped.
  simp only [history, rosterSteps, lookups, lookupsOn, namedUsers, heard.endpoint?,
    List.append_nil]
  cases found : start.supervisor.endpoint? name with
  | none => simp [found]
  | some endpoint =>
    cases named : event.user? <;>
      simp [found, named, Endpoint.lookups, Endpoint.heeds, SessionChoice.resolve]

/-- Every endpoint hears its own events, however they are mixed with those of other machines. -/
theorem run_heard (distinct : (names start.supervisor.endpoints).Nodup)
    (apart : (start.supervisor.endpoints.map (·.ip)).Nodup) (events : List (String × Signal)) :
    start.Heard events (start.run (reporting events)) ∧
      start.history (reporting events) = (start.namedUsers events).map .get ∧
      ∀ name, (start.notices (reporting events)).filter (·.source == name) =
        start.noticesOf events name := by
  -- The last event is brought to what all those before it have left.
  induction events using List.reverseRecOn with
  | nil =>
    refine ⟨.nothing start, rfl, fun name => ?_⟩
    unfold noticesOf
    split <;> rfl
  | append_singleton earlier last ih =>
    obtain ⟨heard, looked, told⟩ := ih
    obtain ⟨name, event⟩ := last
    have split : reporting (earlier ++ [(name, event)]) =
        reporting earlier ++ [.on name (.event event .current)] := List.map_append
    have last : start.run (reporting earlier ++ [.on name (.event event .current)]) =
        ((start.run (reporting earlier)).take (.on name (.event event .current))).2 :=
      List.foldl_append
    have users : start.namedUsers (earlier ++ [(name, event)]) =
        start.namedUsers earlier ++ start.namedUsers [(name, event)] := List.filterMap_append
    rw [split, last, history_append, notices_append, history_event heard, looked, users,
      List.map_append]
    simp only [List.filter_append, told, notices, List.append_nil]
    cases found : start.supervisor.endpoint? name with
    | none =>
      obtain ⟨still, same⟩ := heard.concat_of_missing found event
      have missing : (start.run (reporting earlier)).supervisor.endpoint? name = none := by
        rw [heard.endpoint?, found, Option.map_none]
      rw [take_event_of_missing missing]
      refine ⟨still, trivial, fun other => ?_⟩
      rw [same]
      exact List.append_nil _
    | some endpoint =>
      obtain ⟨next, published⟩ := heard.concat distinct apart found event
      refine ⟨next, trivial, fun other => ?_⟩
      rw [published, noticesOf_concat found]
      refine congrArg (start.noticesOf earlier other ++ ·) ?_
      -- All that the endpoint publishes is about its machine.
      have about : ∀ notice ∈ (start.answerNext earlier event endpoint).notices,
          notice.source = name := by
        intro notice member
        rw [Endpoint.handle_notices_source _ _ _ _ _ _ notice member]
        exact ((endpoint.answers_place start.world _).1).trans (Supervisor.of_endpoint? found).2
      by_cases own : name = other
      · rw [if_pos own]
        exact List.filter_eq_self.mpr fun notice member => by simp [about notice member, own]
      · rw [if_neg own]
        exact List.filter_eq_nil_iff.mpr fun notice member => by simp [about notice member, own]

/--
Events of machines at different addresses can come in any order, as long as each machine's own
events keep theirs. In the end every endpoint is the same, with its cells, its link, its viewers and
the time of its last response, and so is every agent; the same is kept of users, and the directory
was asked the same; and of each machine the same notices were published in the same order.
-/
theorem interleavings_agree (settings : Settings) (roster : Roster) (prober : Option Prober)
    (earlier : List ClassroomStep) {first second : List (String × Signal)}
    (apart : (((new settings roster prober).run earlier).supervisor.endpoints.map (·.ip)).Nodup)
    (same : ∀ name, eventsOf name first = eventsOf name second) :
    let start := (new settings roster prober).run earlier
    let one := start.run (reporting first)
    let other := start.run (reporting second)
    one.supervisor = other.supervisor ∧ one.held = other.held ∧
      (∀ host, one.world.agents.onHost host = other.world.agents.onHost host) ∧
      one.world.roster.directory = other.world.roster.directory ∧
      one.world.roster.book.entries.Perm other.world.roster.book.entries ∧
      (∀ text, one.world.roster.book.find? text = other.world.roster.book.find? text) ∧
      (start.world.roster.queries (start.history (reporting first))).Perm
        (start.world.roster.queries (start.history (reporting second))) ∧
      ∀ name, (start.notices (reporting first)).filter (·.source == name) =
        (start.notices (reporting second)).filter (·.source == name) := by
  intro start one other
  have distinct : (names start.supervisor.endpoints).Nodup :=
    (run_accounted (new_accounted settings roster prober) earlier).distinct
  obtain ⟨heardOne, lookedOne, toldOne⟩ := run_heard distinct apart first
  obtain ⟨heardOther, lookedOther, toldOther⟩ := run_heard distinct apart second
  -- What an endpoint answers depends on its own events alone.
  have answers : start.answersOf first = start.answersOf second :=
    funext fun endpoint => congrArg (endpoint.answers start.world) (same endpoint.name)
  -- Users are looked up in another order, which does not matter.
  have users : (start.namedUsers second).Perm (start.namedUsers first) :=
    (perm_of_eventsOf same).symm.filterMap _
  obtain ⟨alike, asked⟩ := Roster.run_perm users start.world.roster
  rw [← lookedOne, ← lookedOther, ← run_roster, ← run_roster] at alike
  refine ⟨?_, ?_, ?_, alike.directory, alike.entries, alike.find?, ?_, ?_⟩
  · rw [heardOne.supervisor, heardOther.supervisor, answers]
  · rw [heardOne.held, heardOther.held]
  · intro host
    rw [heardOne.agents, heardOther.agents, effectsOn, effectsOn, answers]
  · rw [lookedOne, lookedOther]
    exact asked.symm
  · intro name
    rw [toldOne, toldOther, noticesOf, noticesOf, answers]

/--
The links of two machines come up while the same user, who is not known yet, logs in on both; one of
them reports its flags and the other loses its link.
-/
theorem interleavings_agree_shared_user :
    let pupil : Signal := .identity "pupil" "/home/pupil"
    let ones : List Signal := [.state .connected, .state .connected, pupil, .flags (.ofNat 2)]
    let others : List Signal :=
      [.state .connected, pupil, .state .connected, .state .disconnected, pupil]
    let first := ones.map ("pc01", ·) ++ others.map ("pc02", ·)
    let second := [("pc02", .state .connected), ("pc02", pupil)] ++ ones.map ("pc01", ·) ++
      [("pc02", .state .connected), ("pc02", .state .disconnected), ("pc02", pupil)]
    let start := (new labSettings labRoster none).run [.select "lab"]
    let one := start.run (reporting first)
    let other := start.run (reporting second)
    (∀ name, eventsOf name first = eventsOf name second) ∧
      start.notices (reporting first) ≠ start.notices (reporting second) ∧
      one.supervisor = other.supervisor ∧
      one.world.roster.directory.answered = 1 ∧ other.world.roster.directory.answered = 1 := by
  intro pupil ones others first second start one other
  have apart : (start.supervisor.endpoints.map (·.ip)).Nodup := by decide +kernel
  have same : ∀ name, eventsOf name first = eventsOf name second := by
    -- Only two machines have any event.
    intro name
    by_cases one : name = "pc01"
    · subst one
      decide +kernel
    · by_cases two : name = "pc02"
      · subst two
        decide +kernel
      · simp [eventsOf, first, second, ones, others, Ne.symm one, Ne.symm two]
  obtain ⟨ends, _⟩ :=
    interleavings_agree labSettings labRoster none [.select "lab"] apart same
  exact ⟨same, by decide +kernel, ends, by decide +kernel, by decide +kernel⟩

end Classroom

end ComputerRoom
