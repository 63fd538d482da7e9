import ComputerRoom.Proofs.Endpoint.Ownership
import ComputerRoom.Proofs.Room.Turns
import ComputerRoom.Proofs.Simulation.World
import ComputerRoom.Simulation.Bench
import ComputerRoom.Simulation.Classroom

/-!
Whatever happens in a classroom, every transport that was opened is held by one endpoint or was
released once.
-/

namespace ComputerRoom

/-- The endpoint that is held on to beyond its room, if it is. -/
def Held.endpoint? : Held → Option Endpoint
  | .inRoom => none
  | .leftOver endpoint => some endpoint

/-- The endpoints that are held on to beyond their rooms. -/
def leftOvers (held : List (String × Held)) : List Endpoint :=
  held.filterMap (·.2.endpoint?)

section Holds

variable {held : List (String × Held)} {name : String}

/-- Endpoints are left over in the order of their holds. -/
theorem leftOvers_append (early late : List (String × Held)) :
    leftOvers (early ++ late) = leftOvers early ++ leftOvers late :=
  List.filterMap_append

/-- The first hold leaves its endpoint over, if it has one, before all others. -/
theorem leftOvers_cons (entry : String × Held) (rest : List (String × Held)) :
    leftOvers (entry :: rest) = entry.2.endpoint?.toList ++ leftOvers rest := by
  -- A hold in the room leaves nobody over.
  cases kept : entry.2.endpoint? <;> simp [leftOvers, kept]

/-- A hold that is found stands between holds on other names. -/
theorem split_of_lookup {value : Held} (found : held.lookup name = some value)
    (holds : (held.map (·.1)).Nodup) :
    ∃ early late, held = early ++ (name, value) :: late ∧
      ∀ entry ∈ early ++ late, entry.1 ≠ name := by
  -- Before it the name was looked for in vain, and after it the name does not come again.
  obtain ⟨early, late, rfl, unearly⟩ := List.lookup_eq_some_iff.mp found
  refine ⟨early, late, rfl, ?_⟩
  rw [List.map_append, List.map_cons, List.nodup_append, List.nodup_cons] at holds
  obtain ⟨_, ⟨unlate, _⟩, _⟩ := holds
  intro entry member
  rcases List.mem_append.mp member with before | after
  · have differs := unearly entry before
    exact fun same => by simp [same] at differs
  · exact fun same => unlate (List.mem_map.mpr ⟨entry, after, same⟩)

/-- Holds on other names stay as they are when one hold is replaced. -/
theorem map_of_ne (value : Held) (others : ∀ entry ∈ held, entry.1 ≠ name) :
    (held.map fun (other, kept) => if other == name then (other, value) else (other, kept)) =
      held := by
  -- The test for the name fails at every hold.
  refine (List.map_congr_left ?_).trans (List.map_id held)
  intro entry member
  simp [others entry member]

/-- Holds on other names stay as they are when one hold is given up. -/
theorem filter_of_ne (others : ∀ entry ∈ held, entry.1 ≠ name) :
    held.filter (fun (other, _) => other != name) = held := by
  -- The test for the name fails at every hold.
  refine List.filter_eq_self.mpr ?_
  intro entry member
  simp [others entry member]

end Holds

namespace Classroom

/-- The endpoints that can still be used: those of the active room, and those held beyond theirs. -/
def live (room : Classroom) : List Endpoint :=
  room.supervisor.endpoints ++ leftOvers room.held

/-- The classroom after some steps. -/
def run (room : Classroom) (steps : List ClassroomStep) : Classroom :=
  steps.foldl (fun room step => (room.take step).2) room

/-- A classroom whose agents are in balance with what can still be used, all under own names. -/
structure Accounted (room : Classroom) : Prop where
  balanced : room.world.agents.Balanced room.live
  distinct : (names room.supervisor.endpoints).Nodup
  holds : (room.held.map (·.1)).Nodup

variable {room after : Classroom}

/-- A classroom stays accounted for where only the endpoints of its active room go on. -/
theorem Accounted.evolve {trace : Trace} (accounted : room.Accounted)
    (evolves : Evolves room.supervisor.endpoints trace after.supervisor.endpoints)
    (records : room.world.agents.Records trace after.world.agents)
    (held : after.held = room.held) : after.Accounted := by
  -- The endpoints of the room evolve beside those that are left over.
  obtain ⟨balanced, distinct, holds⟩ := accounted
  have beside := evolves.toSettles.append (.still (leftOvers room.held))
  rw [List.append_nil] at beside
  rw [← held] at beside holds
  refine ⟨balanced.settle ?_ records, evolves.names_eq ▸ distinct, holds⟩
  simpa only [live, held] using beside

/-- A classroom stays accounted for where nothing is done to its endpoints. -/
theorem Accounted.quiet (accounted : room.Accounted)
    (endpoints : after.supervisor.endpoints = room.supervisor.endpoints)
    (agents : after.world.agents = room.world.agents) (held : after.held = room.held) :
    after.Accounted := by
  -- Nothing is the least that can happen.
  have evolves : Evolves room.supervisor.endpoints [] after.supervisor.endpoints := by
    rw [endpoints]
    exact .still room.supervisor.endpoints
  have records : room.world.agents.Records [] after.world.agents := by
    rw [agents]
    exact .still room.world.agents
  exact accounted.evolve evolves records held

/-- Endpoints that evolve can be put in the places of those of the active room. -/
theorem withEndpoints_endpoints {supervisor : Supervisor} {trace : Trace}
    {endpoints : List Endpoint} (evolves : Evolves supervisor.endpoints trace endpoints) :
    (withEndpoints supervisor endpoints).endpoints = endpoints := by
  obtain ⟨school, active, demoServer, created⟩ := supervisor
  cases active with
  | none =>
    -- Nobody evolves into nobody.
    have nobody : names endpoints = [] := evolves.names_eq
    exact (List.map_eq_nil_iff.mp nobody).symm
  | some active => rfl

/-- A hold that turns into a hold on a released endpoint holds nothing more than before. -/
theorem loosen_entry_settles {released : List Endpoint}
    (closed : ∀ endpoint ∈ released, endpoint.channel = .closed) (entry : String × Held) :
    Settles (leftOvers [entry]) [] (leftOvers [loosen released entry]) ∧
      (loosen released entry).1 = entry.1 := by
  obtain ⟨name, kept⟩ := entry
  cases kept with
  | leftOver endpoint => exact ⟨.still [endpoint], rfl⟩
  | inRoom =>
    cases found : released.find? fun endpoint => endpoint.name == name with
    | none =>
      simp only [loosen, found]
      exact ⟨.still [], trivial⟩
    | some endpoint =>
      have bare : ∀ left ∈ [endpoint], left.channel = .closed := by
        simpa using closed endpoint (List.mem_of_find?_eq_some found)
      simp only [loosen, found]
      exact ⟨(Settles.of_closed bare).1, trivial⟩

/-- Holds that turn into holds on released endpoints hold nothing more than before. -/
theorem loosen_settles {released : List Endpoint}
    (closed : ∀ endpoint ∈ released, endpoint.channel = .closed) (held : List (String × Held)) :
    Settles (leftOvers held) [] (leftOvers (held.map (loosen released))) ∧
      (held.map (loosen released)).map (·.1) = held.map (·.1) := by
  -- The first hold settles beside the rest.
  induction held with
  | nil => exact ⟨.still [], rfl⟩
  | cons entry rest ih =>
    obtain ⟨settled, named⟩ := ih
    obtain ⟨settles, name⟩ := loosen_entry_settles closed entry
    have beside := settles.append settled
    rw [← leftOvers_append, ← leftOvers_append] at beside
    refine ⟨beside, ?_⟩
    simp only [List.map_cons, name, named]

/-- A sound turn of the supervisor keeps a classroom accounted for. -/
theorem Accounted.afterTurn (accounted : room.Accounted) (answer : Answer) {turn : Turn}
    (sound : turn.Sound room.supervisor) : (room.afterTurn answer turn).2.Accounted := by
  -- Whoever is given up holds nothing any more, whether or not someone holds on to it.
  obtain ⟨balanced, _, holds⟩ := accounted
  obtain ⟨loosened, named⟩ := loosen_settles sound.released room.held
  have beside := sound.settles.append loosened
  rw [List.append_nil] at beside
  constructor
  · exact balanced.settle beside (Agents.records_observe _ _)
  · exact sound.distinct
  · exact named ▸ holds

/-- The endpoint of a name is one of those of the active room. -/
theorem mem_of_endpoint? {supervisor : Supervisor} {name : String} {endpoint : Endpoint}
    (found : supervisor.endpoint? name = some endpoint) :
    ∃ active, supervisor.room = some active ∧ endpoint ∈ active.endpoints := by
  obtain ⟨active, present, inside⟩ := Option.bind_eq_some_iff.mp found
  exact ⟨active, present, List.mem_of_find?_eq_some inside⟩

/-- A step on an endpoint of the active room keeps a classroom accounted for. -/
theorem Accounted.takeOn (accounted : room.Accounted) (name : String) (step : EndpointStep String) :
    (room.takeOn name step).2.Accounted := by
  -- A step on nobody does nothing.
  unfold Classroom.takeOn
  cases found : room.supervisor.endpoint? name with
  | none => exact accounted
  | some endpoint =>
    obtain ⟨active, present, member⟩ := mem_of_endpoint? found
    have inside : room.supervisor.endpoints = active.endpoints := by
      simp [Supervisor.endpoints, present]
    have moves := endpoint.take_moves room.world room.locate step
    have placed := Evolves.replace (inside ▸ accounted.distinct) member moves
    refine accounted.evolve ?_ (Agents.records_observe _ _) rfl
    rw [inside]
    simp only [Supervisor.endpoints, afterEndpointTurn, present, Option.map_some]
    exact placed

/-- A hold whose endpoint goes on settles beside the others. -/
theorem replace_hold_settles {held : List (String × Held)} {name : String} {endpoint : Endpoint}
    {reaction : Reaction} (found : held.lookup name = some (.leftOver endpoint))
    (holds : (held.map (·.1)).Nodup)
    (moves : endpoint.link.Moves reaction.effects reaction.endpoint.link) :
    let after := held.map fun (other, kept) =>
      if other == name then (other, Held.leftOver reaction.endpoint) else (other, kept)
    Settles (leftOvers held) reaction.trace (leftOvers after) ∧
      after.map (·.1) = held.map (·.1) := by
  intro after
  -- The holds before it and after it are on other names.
  obtain ⟨early, late, rfl, others⟩ := split_of_lookup found holds
  have replaced : after = early ++ (name, .leftOver reaction.endpoint) :: late := by
    have unearly := map_of_ne (.leftOver reaction.endpoint) fun entry member =>
      others entry (List.mem_append_left late member)
    have unlate := map_of_ne (.leftOver reaction.endpoint) fun entry member =>
      others entry (List.mem_append_right early member)
    simp only [after, List.map_append, List.map_cons, unearly, unlate, beq_self_eq_true, if_true]
  have settled := (Settles.still (leftOvers early)).append
    ((Settles.of_moves moves).append (.still (leftOvers late)))
  constructor
  · rw [replaced, leftOvers_append, leftOvers_append, leftOvers_cons, leftOvers_cons]
    simpa [Held.endpoint?] using settled
  · rw [replaced]
    simp

/-- Letting go of a hold lets go of its endpoint, unless the room keeps it. -/
theorem dropHeld_settles (value : Held) : Settles value.endpoint?.toList (dropHeld value) [] := by
  cases value with
  | inRoom => exact .still []
  | leftOver endpoint => exact .drop endpoint

/-- A hold that is given up lets go of whatever it held. -/
theorem drop_hold_settles {held : List (String × Held)} {name : String} {value : Held}
    (found : held.lookup name = some value) (holds : (held.map (·.1)).Nodup) :
    Settles (leftOvers held) (dropHeld value)
      (leftOvers (held.filter fun (other, _) => other != name)) := by
  -- The holds before it and after it are on other names.
  obtain ⟨early, late, rfl, others⟩ := split_of_lookup found holds
  have unearly := filter_of_ne fun entry member =>
    others entry (List.mem_append_left late member)
  have unlate := filter_of_ne fun entry member =>
    others entry (List.mem_append_right early member)
  have settled := (Settles.still (leftOvers early)).append
    ((dropHeld_settles value).append (.still (leftOvers late)))
  rw [List.filter_append, List.filter_cons, unearly, unlate, leftOvers_append, leftOvers_append,
    leftOvers_cons]
  simpa using settled

/-- A step on an endpoint that is held on to keeps a classroom accounted for. -/
theorem Accounted.takeOnHeld (accounted : room.Accounted) (name : String)
    (step : EndpointStep String) : (room.takeOnHeld name step).2.Accounted := by
  -- A hold in the room is a name for an endpoint of the room.
  unfold Classroom.takeOnHeld
  cases found : room.held.lookup name with
  | none => exact accounted
  | some kept =>
    cases kept with
    | inRoom =>
      have taken := accounted.takeOn name step
      dsimp only
      split <;> exact taken
    | leftOver endpoint =>
      obtain ⟨balanced, distinct, holds⟩ := accounted
      have moves := endpoint.take_moves room.world room.locate step
      obtain ⟨settles, named⟩ := replace_hold_settles found holds moves
      have beside := (Settles.still room.supervisor.endpoints).append settles
      refine ⟨balanced.settle beside (Agents.records_observe _ _), distinct, ?_⟩
      exact named ▸ holds

/-- Holding on to an endpoint keeps a classroom accounted for: whoever was held before is let go. -/
theorem Accounted.hold (accounted : room.Accounted) (name : String) :
    (room.hold name).2.Accounted := by
  -- Nothing is held where there is no such endpoint.
  unfold Classroom.hold
  cases room.supervisor.endpoint? name with
  | none => exact accounted
  | some _ =>
    obtain ⟨balanced, distinct, holds⟩ := accounted
    have freed : Settles (leftOvers room.held) (((room.held.lookup name).map dropHeld).getD [])
        (leftOvers (room.held.filter fun (other, _) => other != name)) := by
      cases found : room.held.lookup name with
      | some value => exact drop_hold_settles found holds
      | none =>
        have others : ∀ entry ∈ room.held, entry.1 ≠ name := by
          intro entry member same
          have differs := List.lookup_eq_none_iff.mp found entry member
          simp [same] at differs
        rw [filter_of_ne others]
        exact .still (leftOvers room.held)
    have beside := (Settles.still room.supervisor.endpoints).append freed
    constructor
    · refine balanced.settle ?_ (Agents.records_observe _ _)
      simpa [live, leftOvers_append, leftOvers, Held.endpoint?] using beside
    · exact distinct
    · -- The name is free once whoever was held under it is let go.
      rw [List.map_append, List.nodup_append]
      refine ⟨(holds.sublist (List.filter_sublist.map _)), by simp, ?_⟩
      intro other member fresh single same
      obtain ⟨entry, kept, rfl⟩ := List.mem_map.mp member
      have differs := (List.mem_filter.mp kept).2
      simp_all

/-- Relaying flags keeps a classroom accounted for: reports of flags do nothing to an agent. -/
theorem Accounted.relayFlags (accounted : room.Accounted) : room.relayFlags.2.Accounted := by
  let reported (endpoint : Endpoint) : Endpoint :=
    (endpoint.takeFlags (room.world.agents.onHost endpoint.ip).mask).2.endpoint
  -- Flips are told to followers only, so the trace of the report is left out of the accounts.
  have silent : ∀ endpoint : Endpoint, endpoint.link.Moves [] (reported endpoint).link := by
    intro endpoint
    have talks := endpoint.takeFlags_talks (room.world.agents.onHost endpoint.ip).mask
    rw [talks.link_eq]
    exact .still endpoint.link
  have evolves := Evolves.map room.supervisor.endpoints (fun endpoint => ⟨reported endpoint, []⟩)
    silent
  have untold : (room.supervisor.endpoints.flatMap fun endpoint =>
      Reaction.trace ⟨reported endpoint, []⟩) = [] := by simp [Reaction.trace]
  rw [untold] at evolves
  refine @Accounted.evolve room _ [] accounted ?_ (.still room.world.agents) rfl
  have placed := withEndpoints_endpoints evolves
  simp only [Classroom.relayFlags, List.map_map, Function.comp_def]
  rw [placed]
  exact evolves

/-- A step on the surroundings keeps a classroom accounted for. -/
theorem Accounted.takeWorld (accounted : room.Accounted) (step : WorldStep) :
    (room.take (.world step)).2.Accounted := by
  -- The endpoints of the scene are put in the places of those of the room.
  obtain ⟨evolves, records⟩ := room.world.take_leadsTo room.supervisor.endpoints step
  have placed := withEndpoints_endpoints evolves
  refine accounted.evolve ?_ records rfl
  simp only [take]
  rw [placed]
  exact evolves

/-- Every step keeps a classroom accounted for. -/
theorem take_accounted (accounted : room.Accounted) (step : ClassroomStep) :
    (room.take step).2.Accounted := by
  -- Steps that only look something up do nothing to endpoints.
  have distinct := accounted.distinct
  cases step with
  | world step => exact accounted.takeWorld step
  | select query =>
    exact accounted.afterTurn _ (room.supervisor.select_sound room.equipment _ query)
  | setSchool school => exact accounted.afterTurn _ (room.supervisor.setSchool_sound school)
  | clear => exact accounted.afterTurn _ room.supervisor.clear_sound.1
  | startDemo server fullscreen =>
    have sound := Supervisor.startDemo_sound room.world.settings room.world.roster server
      fullscreen distinct
    have consulted : Accounted { room with world := { room.world with
        roster := (room.supervisor.startDemo room.world.settings room.world.roster server
          fullscreen).2.2 } } := accounted.quiet rfl rfl rfl
    exact consulted.afterTurn _ sound
  | stopDemo => exact accounted.afterTurn _ (Supervisor.stopDemo_sound room.world.settings distinct)
  | relayFlags => exact accounted.relayFlags
  | on name step => exact accounted.takeOn name step
  | hold name => exact accounted.hold name
  | onHeld name step => exact accounted.takeOnHeld name step
  | usernames | ips | user | knownUsers => exact accounted.quiet rfl rfl rfl

/-- Every run of steps keeps a classroom accounted for. -/
theorem run_accounted (accounted : room.Accounted) (steps : List ClassroomStep) :
    (room.run steps).Accounted := by
  -- Each step goes on from the classroom that the one before it left.
  induction steps generalizing room with
  | nil => exact accounted
  | cons step rest ih => exact ih (take_accounted accounted step)

/-- A classroom that was just set up is accounted for. -/
theorem new_accounted (settings : Settings) (roster : Roster) (prober : Option Prober) :
    (new settings roster prober).Accounted :=
  ⟨Agents.balanced_new, List.nodup_nil, List.nodup_nil⟩

/-- Dropping everything releases all that is held. -/
theorem drop_balanced (accounted : room.Accounted) : room.drop.world.agents.Balanced [] := by
  -- Endpoints of the room are dropped first, and then those that are left over.
  have inside : Settles room.supervisor.endpoints
      (room.supervisor.endpoints.flatMap (·.drop.trace)) [] := by
    induction room.supervisor.endpoints with
    | nil => exact .still []
    | cons endpoint rest ih => exact (Settles.drop endpoint).append ih
  have outside : Settles (leftOvers room.held)
      (room.held.flatMap fun (_, held) => dropHeld held) [] := by
    induction room.held with
    | nil => exact .still []
    | cons entry rest ih =>
      rw [leftOvers_cons]
      exact (dropHeld_settles entry.2).append ih
  exact accounted.balanced.settle (inside.append outside) (Agents.records_observe _ _)

end Classroom

namespace Bench

/-- The bench after some steps. -/
def run (bench : Bench) (steps : List BenchStep) : Bench :=
  steps.foldl (fun bench step => (bench.take step).2) bench

/-- Every step keeps the agents of a bench in balance with its endpoint, while there is one. -/
theorem take_balanced {bench : Bench} (balanced : bench.world.agents.Balanced bench.endpoint.toList)
    (step : BenchStep) :
    (bench.take step).2.world.agents.Balanced (bench.take step).2.endpoint.toList := by
  -- Once the endpoint is dropped, no step has anything to do.
  obtain ⟨world, prober, endpoint⟩ := bench
  cases step with
  | world step =>
    obtain ⟨evolves, records⟩ := world.take_leadsTo endpoint.toList step
    have settled := balanced.settle evolves.toSettles records
    -- There are as many endpoints as before, which is one at most.
    have size := congrArg List.length evolves.names_eq
    simp only [names, List.length_map] at size
    have kept : (world.take endpoint.toList step).2.endpoints.head?.toList =
        (world.take endpoint.toList step).2.endpoints := by
      cases endpoint with
      | none =>
        rw [List.eq_nil_of_length_eq_zero size]
        rfl
      | some endpoint =>
        obtain ⟨only, same⟩ := List.length_eq_one_iff.mp size
        rw [same]
        rfl
    exact kept ▸ settled
  | endpoint step =>
    cases endpoint with
    | none => exact balanced
    | some endpoint =>
      have moves := endpoint.take_moves world (Bench.locate ⟨world, prober, endpoint⟩) step
      exact balanced.settle (.of_moves moves) (Agents.records_observe _ _)
  | drop =>
    cases endpoint with
    | none => exact balanced
    | some endpoint => exact balanced.settle (.drop endpoint) (Agents.records_observe _ _)

/-- Every run of steps keeps the agents of a bench in balance with its endpoint. -/
theorem run_balanced {bench : Bench} (balanced : bench.world.agents.Balanced bench.endpoint.toList)
    (steps : List BenchStep) :
    (bench.run steps).world.agents.Balanced (bench.run steps).endpoint.toList := by
  -- Each step goes on from the bench that the one before it left.
  induction steps generalizing bench with
  | nil => exact balanced
  | cons step rest ih => exact ih (take_balanced balanced step)

end Bench

/--
Whatever is done in a classroom, or to a single endpoint until it is dropped, agents count just the
transports and sessions that live endpoints hold and those that were let go of. An endpoint goes
through its link in order: a transport is stopped or becomes a session, which alone is closed then.
Closing again lets go of nothing, and connecting again opens nothing.
-/
theorem transports_accounted (settings : Settings) (roster : Roster) (prober : Option Prober)
    (steps : List ClassroomStep) (machine : Machine) (address : Address)
    (turns : List BenchStep) :
    let room := (Classroom.new settings roster prober).run steps
    let fresh := Endpoint.idle 0 0 machine address
    let bench := Bench.run ⟨.new settings roster, prober, some fresh⟩ turns
    room.world.agents.Balanced room.live ∧
      room.drop.world.agents.Balanced [] ∧
      bench.world.agents.Balanced bench.endpoint.toList ∧
      ∀ endpoint : Endpoint,
        (∀ operations, endpoint.channel.follow? (endpoint.run settings operations).effects =
          some (endpoint.run settings operations).endpoint.channel) ∧
        (∀ count,
          (endpoint.close.endpoint.run settings (List.replicate count .close)).effects = []) ∧
        (endpoint.channel ≠ .closed → endpoint.connect settings = ⟨endpoint, []⟩) := by
  intro room fresh bench
  have accounted : room.Accounted :=
    Classroom.run_accounted (Classroom.new_accounted settings roster prober) steps
  have start : Agents.Balanced [] [fresh] := by
    have bare : ∀ endpoint ∈ [fresh], endpoint.channel = .closed := by simp [fresh, Endpoint.idle]
    exact Agents.balanced_new.settle (Settles.of_closed bare).1 (.still [])
  have balanced : bench.world.agents.Balanced bench.endpoint.toList :=
    Bench.run_balanced start turns
  refine ⟨accounted.balanced, Classroom.drop_balanced accounted, balanced, ?_⟩
  intro endpoint
  exact ⟨endpoint.run_follow settings, endpoint.close_again settings,
    Endpoint.connect_of_open settings⟩

end ComputerRoom
