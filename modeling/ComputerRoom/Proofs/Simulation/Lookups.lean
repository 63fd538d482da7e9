import ComputerRoom.Proofs.Simulation.Ledger
import ComputerRoom.Proofs.User.Queries

/-!
Whom each step of a classroom looks up. What becomes of the shared roster is told by these lookups
and by the changes to the directory alone.
-/

namespace ComputerRoom

/-- The user whom a report names, if it names one. -/
def Signal.user? : Signal → Option String
  | .identity username _ => Endpoint.nonEmpty? username
  | _ => none

namespace Roster

/-- Asking whether somebody teaches, who may be absent, is a lookup of that user. -/
theorem isTeacher_roster (roster : Roster) (user : Option String) :
    (roster.isTeacher user).2 = roster.run (user.toList.map .get) := by
  -- Where there is nobody, nobody is looked up.
  cases user <;> rfl

/-- Asking whether a screen is hidden is a lookup of the user, who may be absent. -/
theorem hidesScreen_roster (roster : Roster) (user : Option String) :
    (roster.hidesScreen user).2 = roster.run (user.toList.map .get) := by
  cases user <;> rfl

end Roster

namespace Endpoint

/-- Whom an endpoint looks up when an event of a session is brought to it. -/
def heeds (endpoint : Endpoint) (session : SessionId) (event : Signal) : List String :=
  if session = endpoint.session then event.user?.toList else []

/-- Whom a step on an endpoint looks up. -/
def lookups {Server : Type} (endpoint : Endpoint) : EndpointStep Server → List String
  | .event event session => endpoint.heeds (session.resolve endpoint) event
  | .identity username _ => (nonEmpty? username).toList
  | .hasTeacher | .hidesScreen => endpoint.username.current.toList
  | _ => []

/-- The user on a client, unless the name is blank. -/
def plainUser? (client : Endpoint) : Option String :=
  client.username.current.filter fun user => Text.trim user != ""

/-- An event that is taken looks up the user whom it names. -/
theorem handle_roster (settings : Settings) (now : Nat) (roster : Roster) (session : SessionId)
    (event : Signal) (endpoint : Endpoint) :
    (endpoint.handle settings now roster session event).roster =
      roster.run ((endpoint.heeds session event).map .get) := by
  -- Events of other sessions are dropped, and only an identity names a user.
  by_cases current : session = endpoint.session
  · cases event with
    | identity username homeFolder =>
      have looked := roster.isTeacher_roster (nonEmpty? username)
      simpa [handle, heeds, current, identify, Signal.user?] using looked
    | state | flags => simp [handle, heeds, current, Signal.user?]
  · simp [handle, heeds, current]

/-- Supervision looks up the user whom an event names. -/
theorem supervise_roster (world : World) (session : SessionId) (event : Signal)
    (endpoint : Endpoint) :
    (world.supervise session event endpoint).roster =
      world.roster.run ((endpoint.heeds session event).map .get) := by
  have taken := handle_roster world.settings world.now world.roster session event endpoint
  unfold World.supervise
  split <;> exact taken

/-- A step on an endpoint leaves the roster as its lookups leave it. -/
theorem take_roster {Server : Type} (world : World) (locate : Server → Except Answer String)
    (endpoint : Endpoint) (step : EndpointStep Server) :
    (endpoint.take world locate step).roster =
      world.roster.run ((endpoint.lookups step).map .get) := by
  -- Most steps leave the roster alone; waking and showing a demo do so in every case.
  cases step with
  | event event session =>
    exact handle_roster world.settings world.now world.roster (session.resolve endpoint) event
      endpoint
  | identity username homeFolder => exact world.roster.isTeacher_roster (nonEmpty? username)
  | hasTeacher => exact world.roster.isTeacher_roster endpoint.username.current
  | hidesScreen => exact world.roster.hidesScreen_roster endpoint.username.current
  | startDemoClient server fullscreen =>
    simp only [take]
    split <;> rfl
  | wakeUp =>
    simp only [take, wakeUpStep]
    split <;> rfl
  | _ => rfl

end Endpoint

namespace World

/-- Whom the endpoint that an event is brought to looks up. -/
def deliverLookups (session : SessionId) (event : Signal) (endpoints : List Endpoint) :
    List String :=
  match endpoints.find? fun endpoint =>
    endpoint.serial == session.endpoint && endpoint.isSupervised with
  | none => []
  | some endpoint => endpoint.heeds session event

/-- Whom a step on the surroundings of some endpoints looks up. -/
def lookups (world : World) (endpoints : List Endpoint) : WorldStep → List String
  | .emit host event =>
    match (world.agents.onHost host).line with
    | none => []
    | some session => deliverLookups session event endpoints
  | _ => []

/-- What a step on the surroundings does to the roster: lookups, or a change of the directory. -/
def rosterSteps (world : World) (endpoints : List Endpoint) : WorldStep → List RosterStep
  | .change change => [.change change]
  | step => (world.lookups endpoints step).map .get

/-- An event leaves the roster as its lookups leave it. -/
theorem deliver_roster (world : World) (session : SessionId) (event : Signal)
    (endpoints : List Endpoint) :
    (world.deliver session event endpoints).world.roster =
      world.roster.run ((deliverLookups session event endpoints).map .get) := by
  -- The first endpoint that the event may belong to takes it.
  induction endpoints with
  | nil => rfl
  | cons endpoint rest ih =>
    unfold deliver deliverLookups
    split
    · rename_i own
      simp only [List.find?_cons, own]
      exact endpoint.supervise_roster world session event
    · rename_i foreign
      simp only [List.find?_cons, foreign]
      exact ih

/-- Checks look nobody up. -/
@[simp] theorem check_roster (world : World) (endpoints : List Endpoint) :
    (world.check endpoints).world.roster = world.roster := by
  -- What a check does reaches the agents, and nothing else of the surroundings.
  induction endpoints generalizing world with
  | nil => rfl
  | cons endpoint rest ih =>
    unfold check
    exact ih _

/-- Time that passes looks nobody up. -/
theorem sleep_roster (world : World) (duration : Nat) (endpoints : List Endpoint) :
    (world.sleep duration endpoints).world.roster = world.roster := by
  -- Time consists of checks at one moment after the other.
  have passed : ∀ (moments : List Nat) (passage : Passage),
      (moments.foldl advance passage).world.roster = passage.world.roster := by
    intro moments
    induction moments with
    | nil => exact fun _ => rfl
    | cons moment later ih => exact fun passage => (ih _).trans (check_roster _ passage.endpoints)
  exact passed _ ⟨world, endpoints, []⟩

/-- A step on the surroundings leaves the roster as its lookups and changes leave it. -/
theorem take_roster (world : World) (endpoints : List Endpoint) (step : WorldStep) :
    (world.take endpoints step).2.world.roster =
      world.roster.run (world.rosterSteps endpoints step) := by
  -- Time looks nobody up, and an event is brought to one endpoint at most.
  cases step with
  | sleep duration => exact sleep_roster world duration endpoints
  | emit host event =>
    simp only [take, emit, rosterSteps, lookups]
    cases (world.agents.onHost host).line with
    | none => rfl
    | some session => exact deliver_roster world session event endpoints
  | _ => rfl

end World

namespace Room

/-- Asking who works at some machines looks up every user there is. -/
theorem usernames_roster (roster : Roster) (endpoints : List Endpoint) :
    (usernames roster endpoints).2 =
      roster.run ((endpoints.filterMap (·.username.current)).map .get) := by
  -- Each lookup is made in the roster that the ones before it left.
  induction endpoints generalizing roster with
  | nil => rfl
  | cons endpoint rest ih =>
    simp only [usernames, ih]
    cases named : endpoint.username.current <;> simp [Roster.facts?, named, Roster.step]

/-- Asking at which machines no teacher works looks up every user there is. -/
theorem studentIps_roster (roster : Roster) (endpoints : List Endpoint) :
    (studentIps roster endpoints).2 =
      roster.run ((endpoints.filterMap (·.username.current)).map .get) := by
  induction endpoints generalizing roster with
  | nil => rfl
  | cons endpoint rest ih =>
    simp only [studentIps, ih, Endpoint.hasTeacher, Roster.isTeacher_roster]
    cases named : endpoint.username.current <;> simp [named]

/-- Seating clients looks up every user with a name that is not blank. -/
theorem seated_roster (roster : Roster) (clients : List Endpoint) :
    (seated roster clients).2 = roster.run ((clients.filterMap (·.plainUser?)).map .get) := by
  induction clients generalizing roster with
  | nil => rfl
  | cons client rest ih =>
    -- A client without a plain name watches in a window, whoever else is known.
    have looked : (watchesInWindow roster client).2 =
        roster.run (client.plainUser?.toList.map .get) := by
      unfold watchesInWindow Endpoint.plainUser?
      cases named : client.username.current with
      | none => simp
      | some user =>
        by_cases blank : Text.trim user = ""
        · simp [Option.filter, blank]
        · simp [Option.filter, blank, Endpoint.hasTeacher, Roster.isTeacher_roster, named]
    simp only [seated, ih, looked, ← Roster.run_append]
    cases plain : client.plainUser? <;> simp [plain]

end Room

/-- Whom a demo that is started looks up: the users of its audience, if there is a server. -/
def Supervisor.demoLookups (settings : Settings) (server : String) (supervisor : Supervisor) :
    List String :=
  match (supervisor.stopDemoIfAny settings).supervisor.room with
  | none => []
  | some room =>
    if (room.endpoint? server).isSome then (room.audience server).filterMap (·.plainUser?) else []

/-- A demo that is started leaves the roster as its lookups leave it. -/
theorem Supervisor.startDemo_roster (settings : Settings) (roster : Roster) (server : String)
    (fullscreen : Bool) (supervisor : Supervisor) :
    (supervisor.startDemo settings roster server fullscreen).2.2 =
      roster.run ((supervisor.demoLookups settings server).map .get) := by
  -- Nobody is looked up for a server that is not there.
  unfold startDemo demoLookups
  generalize supervisor.stopDemoIfAny settings = ended
  obtain ⟨⟨school, active, demoServer, created⟩, trace, released⟩ := ended
  cases active with
  | none => rfl
  | some room =>
    cases found : room.endpoint? server with
    | none => simp [found]
    | some host => simpa [found] using Room.seated_roster roster (room.audience server)

namespace Classroom

/-- Whom a step on an endpoint of the active room looks up. -/
def lookupsOn (room : Classroom) (name : String) (step : EndpointStep String) : List String :=
  match room.supervisor.endpoint? name with
  | none => []
  | some endpoint => endpoint.lookups step

/-- Whom a step looks up in the shared roster, in order. -/
def lookups (room : Classroom) : ClassroomStep → List String
  | .world step => room.world.lookups room.supervisor.endpoints step
  | .startDemo server _ => room.supervisor.demoLookups room.world.settings server
  | .usernames =>
    (room.supervisor.endpoints.filter (·.isReady)).filterMap (·.username.current)
  | .ips true => room.supervisor.endpoints.filterMap (·.username.current)
  | .user lookup => [lookup]
  | .on name step => room.lookupsOn name step
  | .onHeld name step =>
    match room.held.lookup name with
    | none => []
    | some .inRoom => room.lookupsOn name step
    | some (.leftOver endpoint) => endpoint.lookups step
  | _ => []

/-- What a step does to the shared roster: lookups, or a change of the directory. -/
def rosterSteps (room : Classroom) : ClassroomStep → List RosterStep
  | .world step => room.world.rosterSteps room.supervisor.endpoints step
  | step => (room.lookups step).map .get

/-- All that some steps do to the shared roster, in order. -/
def history (room : Classroom) : List ClassroomStep → List RosterStep
  | [] => []
  | step :: rest => room.rosterSteps step ++ (room.take step).2.history rest

variable {room : Classroom}

/-- A step on an endpoint of the active room leaves the roster as its lookups leave it. -/
theorem takeOn_roster (room : Classroom) (name : String) (step : EndpointStep String) :
    (room.takeOn name step).2.world.roster =
      room.world.roster.run ((room.lookupsOn name step).map .get) := by
  -- A name that nobody bears reaches nobody.
  unfold takeOn lookupsOn
  cases room.supervisor.endpoint? name with
  | none => rfl
  | some endpoint => exact endpoint.take_roster room.world room.locate step

/-- Every step leaves the roster as its lookups and changes leave it. -/
theorem take_roster (room : Classroom) (step : ClassroomStep) :
    (room.take step).2.world.roster = room.world.roster.run (room.rosterSteps step) := by
  -- Rooms come and go without any user being looked up.
  cases step with
  | world step => exact room.world.take_roster room.supervisor.endpoints step
  | startDemo server fullscreen =>
    exact Supervisor.startDemo_roster room.world.settings room.world.roster server fullscreen
      room.supervisor
  | usernames => exact Room.usernames_roster room.world.roster _
  | ips studentsOnly =>
    cases studentsOnly with
    | false => rfl
    | true => exact Room.studentIps_roster room.world.roster _
  | on name step => exact room.takeOn_roster name step
  | onHeld name step =>
    have taken := room.takeOn_roster name step
    simp only [take, takeOnHeld, rosterSteps, lookups]
    -- A hold in the room is a name for an endpoint of the room.
    cases room.held.lookup name with
    | none => rfl
    | some kept =>
      cases kept with
      | inRoom =>
        dsimp only
        split <;> exact taken
      | leftOver endpoint => exact endpoint.take_roster room.world room.locate step
  | hold name =>
    simp only [take, hold]
    split <;> rfl
  | _ => rfl

/-- The history of the second part of a run comes after that of the first. -/
theorem history_append (room : Classroom) (first second : List ClassroomStep) :
    room.history (first ++ second) = room.history first ++ (room.run first).history second := by
  -- The first step hands its classroom to the rest.
  induction first generalizing room with
  | nil => rfl
  | cons step rest ih =>
    rw [List.cons_append, history, ih, history, List.append_assoc]
    rfl

/-- What becomes of the shared roster is told by the history of the steps alone. -/
theorem run_roster (room : Classroom) (steps : List ClassroomStep) :
    (room.run steps).world.roster = room.world.roster.run (room.history steps) := by
  -- The history of each step starts from the roster that the one before it left.
  induction steps generalizing room with
  | nil => rfl
  | cons step rest ih =>
    rw [history, Roster.run_append, ← take_roster]
    exact ih _

end Classroom

end ComputerRoom
