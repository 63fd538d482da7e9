import ComputerRoom.Proofs.Endpoint.Learning
import ComputerRoom.Proofs.Room.Broadcast
import ComputerRoom.Proofs.Simulation.NameOrder

/-!
Selecting a room opens one endpoint for each member that can be supervised, after the room before is
closed. A selection that fails does no more than to close that room.
-/

namespace ComputerRoom

/-- A machine that can be supervised, and the address that is used for it. -/
structure Candidate where
  machine : Machine
  address : Address

/-- What a member of a room can be supervised as: a known machine that has a usable address. -/
def Directory.candidate? (directory : Directory) (prober : Option Prober) (id : String) :
    Option Candidate :=
  match directory.machine id with
  | .error _ => none
  | .ok machine => (machine.activeAddress? prober).map fun address => ⟨machine, address⟩

namespace Candidate

/-- Who is kept once one more member was looked at: a candidate stays if no one has its name. -/
def keep (kept : List Candidate) : Option Candidate → List Candidate
  | none => kept
  | some candidate =>
    if ∃ other ∈ kept, other.machine.name = candidate.machine.name then kept
    else kept ++ [candidate]

/-- The endpoint that is opened for a candidate, and the opening itself. -/
def launch (equipment : Equipment) (serial : Nat) (candidate : Candidate) : Reaction :=
  (Endpoint.idle serial equipment.now candidate.machine candidate.address).launch
    equipment.settings equipment.now

/-- The one thing that is asked of the outside when a candidate is opened. -/
def request (equipment : Equipment) (serial : Nat) (candidate : Candidate) : String × Effect :=
  let ip := candidate.address.ip
  (ip, .opened ⟨serial, 1⟩ ⟨ip, equipment.settings.vncPort, equipment.settings.frameInterval⟩)

/-- The endpoints that are opened for some candidates, one after the other. -/
def opened (equipment : Equipment) (created : Nat) (kept : List Candidate) : List Endpoint :=
  kept.mapIdx fun index candidate => (candidate.launch equipment (created + index)).endpoint

/-- What is asked of the outside when some candidates are opened, one after the other. -/
def requests (equipment : Equipment) (created : Nat) (kept : List Candidate) : Trace :=
  kept.mapIdx fun index candidate => candidate.request equipment (created + index)

variable {equipment : Equipment} {created : Nat} {kept : List Candidate} {candidate : Candidate}

/-- Opening a candidate asks for its connection and for nothing else. -/
theorem launch_trace (equipment : Equipment) (serial : Nat) (candidate : Candidate) :
    (candidate.launch equipment serial).trace = [candidate.request equipment serial] := rfl

/-- An endpoint is opened under the name of its machine. -/
theorem launch_name (equipment : Equipment) (serial : Nat) (candidate : Candidate) :
    (candidate.launch equipment serial).endpoint.name = candidate.machine.name := rfl

/-- The endpoints that are opened bear the names of the candidates. -/
theorem names_opened (equipment : Equipment) (created : Nat) (kept : List Candidate) :
    names (opened equipment created kept) = kept.map (·.machine.name) :=
  List.ext_getElem (by simp [names, opened]) fun index _ _ => by simp [names, opened, launch_name]

/-- One more candidate is opened after the others, under the next number. -/
theorem opened_concat :
    opened equipment created (kept ++ [candidate]) = opened equipment created kept ++
      [(candidate.launch equipment (created + kept.length)).endpoint] :=
  List.mapIdx_concat

/-- One more candidate is asked for after the others. -/
theorem requests_concat :
    requests equipment created (kept ++ [candidate]) = requests equipment created kept ++
      [candidate.request equipment (created + kept.length)] :=
  List.mapIdx_concat

end Candidate

/-- The members of a room that are kept, in the order in which they are looked at. -/
def Directory.kept (directory : Directory) (prober : Option Prober) (ids : List String) :
    List Candidate :=
  (ids.map (directory.candidate? prober)).foldl Candidate.keep []

namespace Opening

/-- An opening of just the candidates that were kept so far. -/
structure Opens (equipment : Equipment) (start : Nat) (kept : List Candidate)
    (opening : Opening) : Prop where
  endpoints : opening.endpoints.Perm (Candidate.opened equipment start kept)
  trace : opening.trace = Candidate.requests equipment start kept
  created : opening.created = start + kept.length

variable {equipment : Equipment} {start : Nat} {kept : List Candidate} {opening : Opening}

/-- A name is taken among the endpoints exactly if a candidate of the name was kept. -/
theorem Opens.taken_iff (opens : opening.Opens equipment start kept) (name : String) :
    (opening.endpoints.any fun other => other.name == name) = true ↔
      ∃ other ∈ kept, other.machine.name = name := by
  have same : name ∈ names opening.endpoints ↔ name ∈ kept.map (·.machine.name) := by
    rw [← Candidate.names_opened equipment start]
    exact (opens.endpoints.map _).mem_iff
  simpa [names] using same

/-- A candidate of a free name is opened next. -/
theorem Opens.launch (opens : opening.Opens equipment start kept) (candidate : Candidate) :
    let launched := candidate.launch equipment opening.created
    Opens equipment start (kept ++ [candidate])
      ⟨Room.insert launched.endpoint opening.endpoints, opening.trace ++ launched.trace,
        opening.created + 1⟩ := by
  intro launched
  constructor
  · -- Where its name belongs does not matter for who is there.
    have sorted := Room.insert_perm launched.endpoint opening.endpoints
    rw [Candidate.opened_concat, ← opens.created]
    refine sorted.trans ?_
    exact (opens.endpoints.cons launched.endpoint).trans (List.perm_append_singleton _ _).symm
  · rw [Candidate.requests_concat, ← opens.created, ← opens.trace, ← Candidate.launch_trace]
  · rw [opens.created, List.length_append, List.length_singleton, Nat.add_assoc]

/-- A member that is looked at is opened exactly if it is kept. -/
theorem Opens.addMember (opens : opening.Opens equipment start kept) (directory : Directory)
    (id : String) :
    Opens equipment start (Candidate.keep kept (directory.candidate? equipment.prober id))
      (opening.addMember equipment directory id) := by
  unfold Opening.addMember Directory.candidate?
  cases directory.machine id with
  | error failure => exact opens
  | ok machine =>
    simp only
    cases usable : machine.activeAddress? equipment.prober with
    | none =>
      -- Without an address there is no endpoint.
      simpa [Endpoint.create, usable, Candidate.keep] using opens
    | some address =>
      have made := Endpoint.create_eq_ok_iff.mpr
        ⟨address, usable, Eq.refl (Endpoint.idle opening.created equipment.now machine address)⟩
      have taken := opens.taken_iff machine.name
      simp only [made, Option.map_some, Candidate.keep]
      -- The name of an endpoint is the name of its machine.
      by_cases free : ∃ other ∈ kept, other.machine.name = machine.name
      · rw [if_pos free]
        exact (if_pos (taken.mpr free)).symm ▸ opens
      · rw [if_neg free]
        exact (if_neg (mt taken.mp free)).symm ▸ opens.launch ⟨machine, address⟩

/-- Looking at some members one after the other opens those that are kept. -/
theorem Opens.addMembers (opens : opening.Opens equipment start kept) (directory : Directory)
    (ids : List String) :
    Opens equipment start
      ((ids.map (directory.candidate? equipment.prober)).foldl Candidate.keep kept)
      (ids.foldl (Opening.addMember equipment directory) opening) := by
  -- Both folds go through the members together.
  induction ids generalizing opening kept with
  | nil => exact opens
  | cons id rest ih => exact ih (opens.addMember directory id)

end Opening

namespace Endpoint

/-- An endpoint that was closed: it holds no link, and nothing is known of a user any more. -/
structure Closed (endpoint : Endpoint) : Prop where
  state : endpoint.state.current = .disconnected
  channel : endpoint.channel = .closed
  username : endpoint.username.current = none
  homeFolder : endpoint.homeFolder.current = none
  flags : endpoint.flags.current = none
  teacher : endpoint.teacher.current = false
  unsupervised : ∀ since, endpoint.supervision ≠ .running since

/-- Closing an endpoint leaves it closed, whatever state it was in. -/
theorem close_closed (endpoint : Endpoint) : endpoint.close.endpoint.Closed := by
  -- The link and the watched cells are known after disconnecting; two more fields are left.
  have link := disconnect_link endpoint.stop
  have cells := (disconnect_watched endpoint.stop).1
  have home : endpoint.close.endpoint.homeFolder = .start none := by
    unfold close disconnect release
    split <;> rfl
  have ended : endpoint.close.endpoint.supervision = endpoint.stop.supervision := by
    unfold close disconnect release
    split <;> rfl
  refine ⟨congrArg (·.state) link, congrArg (·.channel) link,
    congrArg (·.username.current) cells, congrArg (·.current) home,
    congrArg (·.flags.current) cells, congrArg (·.teacher.current) cells, ?_⟩
  intro since running
  rw [ended] at running
  -- Supervision that is running is what closing ends first.
  unfold stop at running
  split at running
  · simp at running
  · rename_i idle
    exact idle since running

/-- Closing an endpoint lets go of what it holds, and does nothing else. -/
theorem releases_of_mem_close_trace {endpoint : Endpoint} {entry : String × Effect}
    (member : entry ∈ endpoint.close.trace) : entry.2.releases = true := by
  -- What is let go of depends on the channel.
  unfold Reaction.trace close disconnect release at member
  split at member <;> simp_all [Reaction.andThen]

end Endpoint

/-- What lets go of a transport opens none. -/
theorem Effect.opens_of_releases {effect : Effect} (releases : effect.releases = true) :
    effect.opens = false := by
  cases effect <;> simp_all

namespace Supervisor

variable {equipment : Equipment} {directory : Directory} {query : String} {supervisor : Supervisor}

/-- Clearing closes the endpoints of the active room one after the other, and keeps the school. -/
theorem clear_eq (supervisor : Supervisor) :
    supervisor.clear = ⟨⟨supervisor.school, none, none, supervisor.created⟩,
      supervisor.endpoints.flatMap (·.close.trace),
      supervisor.endpoints.map (·.close.endpoint)⟩ := by
  obtain ⟨school, active, demoServer, created⟩ := supervisor
  cases active with
  | none => rfl
  | some room => simp [clear, Room.close, endpoints, List.flatMap_map]

/-- Clearing only lets go of what is held, and leaves every endpoint closed. -/
theorem clear_closes (supervisor : Supervisor) :
    (∀ entry ∈ supervisor.clear.trace, entry.2.releases = true) ∧
      ∀ endpoint ∈ supervisor.clear.released, endpoint.Closed := by
  rw [clear_eq]
  constructor
  · intro entry member
    obtain ⟨endpoint, _, closing⟩ := List.mem_flatMap.mp member
    exact Endpoint.releases_of_mem_close_trace closing
  · intro endpoint member
    obtain ⟨before, _, rfl⟩ := List.mem_map.mp member
    exact before.close_closed

/-- Rooms are looked up alike before and after the active room is cleared. -/
theorem clear_resolve (directory : Directory) (query : String) (supervisor : Supervisor) :
    supervisor.clear.supervisor.resolve directory query = supervisor.resolve directory query := by
  rw [clear_eq]
  rfl

/-- A room that has members is the one that the directory answers with. -/
theorem resolve_eq_ok {record : RoomListing}
    (found : directory.room query supervisor.school = .ok record)
    (members : record.memberIds ≠ []) : supervisor.resolve directory query = .ok record := by
  simp [resolve, found, members]

/-- No room is found if the directory fails, or if there is nobody in the room that it has. -/
theorem resolve_eq_error {failure : RoomFailure}
    (failed : supervisor.resolve directory query = .error failure) :
    (∃ other, directory.room query supervisor.school = .error other ∧
        failure = .ofQuery query other) ∨
      ∃ record, directory.room query supervisor.school = .ok record ∧ record.memberIds = [] ∧
        failure = .empty record.name := by
  -- Only a room that is known can turn out to be empty.
  unfold resolve at failed
  cases answer : directory.room query supervisor.school with
  | error other =>
    simp only [answer, Except.error.injEq] at failed
    exact .inl ⟨other, rfl, failed.symm⟩
  | ok record =>
    simp only [answer] at failed
    split at failed
    · rename_i nobody
      exact .inr ⟨record, rfl, List.isEmpty_iff.mp nobody, (Except.error.inj failed).symm⟩
    · simp at failed

/-- A selection that finds no room with members clears the active room. -/
theorem select_of_resolve_error {failure : RoomFailure}
    (failed : supervisor.resolve directory query = .error failure) :
    supervisor.select equipment directory query = (.error failure, supervisor.clear) := by
  simp [select, clear_resolve, failed]

/-- A selection that finds a room with members opens them after clearing the active room. -/
theorem select_of_resolve_ok (equipment : Equipment) {record : RoomListing}
    (resolved : supervisor.resolve directory query = .ok record) :
    let opening := record.memberIds.foldl (Opening.addMember equipment directory)
      ⟨[], [], supervisor.created⟩
    supervisor.select equipment directory query = (.ok opening.endpoints.length,
      ⟨⟨supervisor.school, some ⟨record, opening.endpoints⟩, none, opening.created⟩,
        supervisor.endpoints.flatMap (·.close.trace) ++ opening.trace,
        supervisor.endpoints.map (·.close.endpoint)⟩) := by
  intro opening
  have resolves := (supervisor.clear_resolve directory query).trans resolved
  simp only [select, resolves]
  rw [clear_eq]

/--
A room with members is selected by opening an endpoint for each member that is a known machine, has
a usable address, and bears a name that no member before it has. The endpoints are in the order of
their names, but they are opened in the order of the members, after the room before was closed.
-/
theorem select_opens_kept (equipment : Equipment) {directory : Directory} {query : String}
    {supervisor : Supervisor} {record : RoomListing}
    (found : directory.room query supervisor.school = .ok record)
    (members : record.memberIds ≠ []) :
    let kept := directory.kept equipment.prober record.memberIds
    let opened := Candidate.opened equipment supervisor.created kept
    let closings := supervisor.endpoints.flatMap (·.close.trace)
    let (answer, turn) := supervisor.select equipment directory query
    answer = .ok kept.length ∧
      (∃ endpoints, turn.supervisor = ⟨supervisor.school, some ⟨record, endpoints⟩, none,
          supervisor.created + kept.length⟩ ∧
        endpoints.Perm opened ∧ Ascending endpoints) ∧
      (∀ endpoint ∈ opened, turn.supervisor.endpoint? endpoint.name = some endpoint) ∧
      turn.trace = closings ++ Candidate.requests equipment supervisor.created kept ∧
      (∀ entry ∈ closings, entry.2.releases = true) ∧
      turn.released = supervisor.endpoints.map (·.close.endpoint) ∧
      ∀ endpoint ∈ turn.released, endpoint.Closed := by
  intro kept opened closings
  have selected := select_of_resolve_ok equipment (resolve_eq_ok found members)
  have nobody : Opening.Opens equipment supervisor.created [] ⟨[], [], supervisor.created⟩ :=
    ⟨.refl _, rfl, rfl⟩
  have opens : Opening.Opens equipment supervisor.created kept
      (record.memberIds.foldl (Opening.addMember equipment directory)
        ⟨[], [], supervisor.created⟩) := nobody.addMembers directory record.memberIds
  have ascending := supervisor.select_ascending equipment directory query
  generalize record.memberIds.foldl (Opening.addMember equipment directory)
    ⟨[], [], supervisor.created⟩ = opening at selected opens
  rw [selected] at ascending ⊢
  have size : opening.endpoints.length = kept.length := by
    simpa [Candidate.opened] using opens.endpoints.length_eq
  -- The room before is closed just as if it were cleared.
  obtain ⟨releases, closed⟩ := supervisor.clear_closes
  rw [clear_eq] at releases closed
  refine ⟨congrArg _ size, ⟨opening.endpoints, ?_, opens.endpoints, ascending⟩, ?_,
    congrArg _ opens.trace, releases, rfl, closed⟩
  · simp only [opens.created]
  · intro endpoint member
    have inside : endpoint ∈ opening.endpoints := opens.endpoints.mem_iff.mpr member
    have distinct : (names (Room.mk record opening.endpoints).endpoints).Nodup :=
      ascending.distinct
    exact Room.endpoint?_of_mem distinct inside

/-- Members that cannot be supervised and names that are taken are left out of a room. -/
theorem select_opens_kept_mixed :
    let settings : Settings := ⟨11100, 11400, 1000, 5000, 30000, 1000000000⟩
    let equipment : Equipment := ⟨settings, none, 100⟩
    let machine (id name : String) (ips : List String) : Machine :=
      ⟨id, name, ips, [], none, .linux⟩
    let record : RoomListing := ⟨"cn=r1", "r1", ["a", "b", "nowhere", "c", "d", "a"]⟩
    let directory : Directory := ⟨[⟨none, record⟩],
      [machine "a" "pc02" ["10.0.0.2"], machine "b" "pc03" [], machine "c" "pc01" ["10.0.0.1"],
        machine "d" "pc02" ["10.0.0.4"]], [], ⟨none, none, none⟩, 0⟩
    let busy : Endpoint := { Endpoint.idle 0 0 (machine "e" "pc09" ["10.0.0.9"])
      ⟨"10.0.0.9", none⟩ with
      channel := .session
      connects := 1
      state := .start .ready }
    let supervisor : Supervisor := ⟨none, some ⟨⟨"cn=r2", "r2", ["e"]⟩, [busy]⟩, some "pc09", 1⟩
    let (answer, turn) := supervisor.select equipment directory "r1"
    directory.room "r1" supervisor.school = .ok record ∧ record.memberIds ≠ [] ∧
      answer = .ok 2 ∧
      turn.trace = [("10.0.0.9", .sessionClosed),
        ("10.0.0.2", .opened ⟨1, 1⟩ ⟨"10.0.0.2", 11100, 1000⟩),
        ("10.0.0.1", .opened ⟨2, 1⟩ ⟨"10.0.0.1", 11100, 1000⟩)] := by
  intro settings equipment machine record directory busy supervisor
  have found : directory.room "r1" supervisor.school = .ok record := rfl
  have members : record.memberIds ≠ [] := by decide
  obtain ⟨answer, _, _, trace, _⟩ := select_opens_kept equipment found members
  have two : (directory.kept none record.memberIds).length = 2 := by decide +kernel
  exact ⟨found, members, answer.trans (congrArg _ two), trace.trans (by decide +kernel)⟩

/--
A selection fails for the reason that the directory gives, or as there is nobody in the room. What
it leaves behind is what clearing the active room leaves behind, whatever its endpoints were doing.
-/
theorem select_failure (equipment : Equipment) {directory : Directory} {query : String}
    {supervisor : Supervisor} {failure : RoomFailure}
    (failed : (supervisor.select equipment directory query).1 = .error failure) :
    let asked := directory.room query supervisor.school
    let turn := (supervisor.select equipment directory query).2
    ((failure = .notFound query ↔ ∃ text, asked = .error (.notFound text)) ∧
      (∀ count, failure = .ambiguous query count ↔
        ∃ text, asked = .error (.ambiguous text count)) ∧
      (∀ name, failure = .empty name ↔
        ∃ record, asked = .ok record ∧ record.memberIds = [] ∧ record.name = name) ∧
      (∀ other, failure = .directory other ↔ asked = .error other ∧
        (∀ text, other ≠ .notFound text) ∧ ∀ text count, other ≠ .ambiguous text count) ∧
      (failure = .notFound query ∨ (∃ count, failure = .ambiguous query count) ∨
        (∃ name, failure = .empty name) ∨ ∃ other, failure = .directory other)) ∧
    turn = supervisor.clear ∧
      turn.supervisor = ⟨supervisor.school, none, none, supervisor.created⟩ ∧
      turn.supervisor.endpoints = [] ∧
      (∀ entry ∈ turn.trace, entry.2.opens = false) ∧
      turn.released = supervisor.endpoints.map (·.close.endpoint) ∧
      ∀ endpoint ∈ turn.released, endpoint.Closed := by
  intro asked turn
  -- The room is resolved before anything is opened, so a failure can only come from there.
  have unresolved : supervisor.resolve directory query = .error failure := by
    cases resolved : supervisor.resolve directory query with
    | ok record => simp [select_of_resolve_ok equipment resolved] at failed
    | error other => simpa [select_of_resolve_error resolved] using failed
  have cleared : turn = supervisor.clear :=
    congrArg (·.2) (select_of_resolve_error unresolved)
  refine ⟨?_, cleared, ?_⟩
  · -- The directory has no room for the query, or it has one with nobody in it.
    obtain ⟨other, answer, rfl⟩ | ⟨record, answer, nobody, rfl⟩ := resolve_eq_error unresolved
    · have asked_eq : asked = .error other := answer
      cases other <;> simp [asked_eq, RoomFailure.ofQuery]
    · have asked_eq : asked = .ok record := answer
      simp [asked_eq, nobody]
  · obtain ⟨releases, closed⟩ := supervisor.clear_closes
    have quiet : ∀ entry ∈ turn.trace, entry.2.opens = false := by
      rw [cleared]
      exact fun entry member => Effect.opens_of_releases (releases entry member)
    rw [cleared, clear_eq] at quiet ⊢
    rw [clear_eq] at closed
    exact ⟨rfl, rfl, quiet, rfl, closed⟩

/-- A query that finds no room closes a room in which a demo is running. -/
theorem select_failure_demo :
    let settings : Settings := ⟨11100, 11400, 1000, 5000, 30000, 1000000000⟩
    let equipment : Equipment := ⟨settings, none, 100⟩
    let machine : Machine := ⟨"e", "pc09", ["10.0.0.9"], [], none, .linux⟩
    let busy : Endpoint := { Endpoint.idle 0 0 machine ⟨"10.0.0.9", none⟩ with
      channel := .session
      connects := 1
      state := .start .ready
      flags := .start (some (.ofNat 2)) }
    let supervisor : Supervisor :=
      ⟨some "school", some ⟨⟨"cn=r1", "r1", ["e"]⟩, [busy]⟩, some "pc09", 1⟩
    let (answer, turn) := supervisor.select equipment .empty "nowhere"
    answer = .error (.notFound "nowhere") ∧ turn = supervisor.clear ∧
      turn.supervisor = ⟨some "school", none, none, 1⟩ ∧
      ∀ endpoint ∈ turn.released, endpoint.Closed := by
  intro settings equipment machine busy supervisor
  have failed : (supervisor.select equipment .empty "nowhere").1 =
      .error (.notFound "nowhere") := rfl
  obtain ⟨_, cleared, left, _, _, _, closed⟩ := select_failure equipment failed
  exact ⟨failed, cleared, left, closed⟩

end Supervisor

end ComputerRoom
