import ComputerRoom.Proofs.Room.Broadcast
import ComputerRoom.Proofs.Simulation.Mask

/-!
What is known of the machines of a room after some of them, or all, reported what their agents show.
-/

namespace ComputerRoom

/-- What ending demos goes by about a machine: who it is, and what it last reported. -/
structure Standing where
  name : String
  ip : String
  ready : Bool
  flags : Option FlagMask

namespace Standing

/-- Whether a machine last reported a flag. -/
def shows (standing : Standing) (flag : Flag) : Bool :=
  standing.flags.map (·.contains flag) == some true

/-- The standing of a machine after some machines have reported what their agents show. -/
def report (agents : Agents) (reporting : List String) (standing : Standing) : Standing :=
  if standing.name ∈ reporting then
    { standing with flags := some (agents.onHost standing.ip).mask }
  else standing

variable {agents : Agents} {reporting : List String} {standing : Standing}

/-- A report does not change who a machine is. -/
@[simp] theorem report_name : (standing.report agents reporting).name = standing.name := by
  unfold report
  split <;> rfl

/-- A report does not change where a machine is. -/
@[simp] theorem report_ip : (standing.report agents reporting).ip = standing.ip := by
  unfold report
  split <;> rfl

/-- A report does not change whether a machine is ready. -/
@[simp] theorem report_ready : (standing.report agents reporting).ready = standing.ready := by
  unfold report
  split <;> rfl

/-- A machine that has reported shows what its agent does. -/
theorem report_shows (flag : Flag) : (standing.report agents reporting).shows flag =
    if standing.name ∈ reporting then (agents.onHost standing.ip).mask.contains flag
    else standing.shows flag := by
  unfold report
  split <;> simp [shows]

/-- Reports of one machine and then of others are reports of all of them. -/
theorem report_cons (name : String) (rest : List String) (standing : Standing) :
    (standing.report agents [name]).report agents rest = standing.report agents (name :: rest) := by
  -- A second report of a machine says the same as the first.
  by_cases first : standing.name = name <;> by_cases later : standing.name ∈ rest <;>
    simp [report, first, later]

end Standing

/-- What ending demos goes by about an endpoint. -/
def Endpoint.standing (endpoint : Endpoint) : Standing :=
  ⟨endpoint.name, endpoint.ip, endpoint.isReady, endpoint.flags.current⟩

/-- Whom a machine lets watch is nothing that ending demos goes by. -/
@[simp] theorem Endpoint.unwatched_standing (endpoint : Endpoint) :
    endpoint.unwatched.standing = endpoint.standing := rfl

/-- A report of flags is what is known of them from then on. -/
theorem Endpoint.takeFlags_standing (endpoint : Endpoint) (mask : FlagMask) :
    (endpoint.takeFlags mask).2.endpoint.standing =
      { endpoint.standing with flags := some mask } := by
  simp [takeFlags, standing, Tracked.report, name, ip, isReady]

/-- What is only told to followers leaves every agent as it was. -/
theorem Agents.onHost_observe_published (agents : Agents) {trace : Trace}
    (published : ∀ entry ∈ trace, ∃ notice, entry.2 = .published notice) (host : String) :
    (agents.observe trace).onHost host = agents.onHost host := by
  -- An agent takes note of commands and connections only.
  induction trace generalizing agents with
  | nil => rfl
  | cons entry rest ih =>
    obtain ⟨⟨notice, told⟩, later⟩ := List.forall_mem_cons.mp published
    refine (ih (agents.modify entry.1 (·.observe entry.2)) later).trans ?_
    rw [onHost_modify, told]
    by_cases here : host = entry.1 <;> simp [here, Agent.observe]

/-- Nobody bears a name that no endpoint is found by. -/
theorem Supervisor.name_ne_of_missing {supervisor : Supervisor} {name : String}
    (missing : supervisor.endpoint? name = none) {endpoint : Endpoint}
    (member : endpoint ∈ supervisor.endpoints) : endpoint.name ≠ name := by
  intro same
  cases present : supervisor.room with
  | none => simp [endpoints, present] at member
  | some active =>
    simp only [endpoints, present] at member
    simp only [endpoint?, present, Option.bind_some] at missing
    exact List.find?_eq_none.mp missing endpoint member (by simpa using same)

namespace Classroom

/-- A classroom after some machines reported what their agents show, and nothing else happened. -/
structure Reported (before : Classroom) (reporting : List String) (after : Classroom) : Prop where
  demoServer : after.supervisor.demoServer = before.supervisor.demoServer
  agents : ∀ host, after.world.agents.onHost host = before.world.agents.onHost host
  standings : after.supervisor.endpoints.map (·.standing) =
    (before.supervisor.endpoints.map (·.standing)).map (·.report before.world.agents reporting)

variable {room after : Classroom} {endpoint : Endpoint}

/-- Reports leave all names as they are. -/
theorem Reported.names_eq {reporting : List String} {after : Classroom}
    (reported : room.Reported reporting after) :
    names after.supervisor.endpoints = names room.supervisor.endpoints := by
  have same := congrArg (List.map (·.name)) reported.standings
  simpa [names, Function.comp_def, Endpoint.standing] using same

/-- Reports leave all addresses as they are. -/
theorem Reported.ips_eq {reporting : List String} {after : Classroom}
    (reported : room.Reported reporting after) :
    after.supervisor.endpoints.map (·.ip) = room.supervisor.endpoints.map (·.ip) := by
  have same := congrArg (List.map (·.ip)) reported.standings
  simpa [Function.comp_def, Endpoint.standing] using same

/-- After reports every machine still has its place, and shows what it reported if it did. -/
theorem Reported.exists_twin {reporting : List String} {after : Classroom}
    (reported : room.Reported reporting after) {endpoint : Endpoint}
    (member : endpoint.standing ∈ room.supervisor.endpoints.map (·.standing)) :
    ∃ twin ∈ after.supervisor.endpoints, twin.name = endpoint.name ∧ twin.ip = endpoint.ip ∧
      twin.isReady = endpoint.isReady ∧ ∀ flag, twin.shows flag =
        if endpoint.name ∈ reporting then
          (room.world.agents.onHost endpoint.ip).mask.contains flag
        else endpoint.shows flag := by
  -- The endpoints keep their places, so that of this one is taken by one that stands alike.
  have placed : endpoint.standing.report room.world.agents reporting ∈
      after.supervisor.endpoints.map (·.standing) := by
    rw [reported.standings]
    exact List.mem_map_of_mem member
  obtain ⟨twin, inside, alike⟩ := List.mem_map.mp placed
  refine ⟨twin, inside, ?_, ?_, ?_, fun flag => ?_⟩
  · exact (congrArg Standing.name alike).trans Standing.report_name
  · exact (congrArg Standing.ip alike).trans Standing.report_ip
  · exact (congrArg Standing.ready alike).trans Standing.report_ready
  · exact (congrArg (Standing.shows · flag) alike).trans (Standing.report_shows flag)

/-- A machine that relays its flags reports what its agent shows. -/
theorem take_relay (distinct : (names room.supervisor.endpoints).Nodup) (name : String) :
    room.Reported [name] (room.take (.on name .relayFlags)).2 := by
  simp only [take, takeOn]
  cases found : room.supervisor.endpoint? name with
  | none =>
    -- Nobody of that name can report.
    refine ⟨rfl, fun _ => rfl, ?_⟩
    rw [List.map_map]
    refine List.map_congr_left ?_
    intro endpoint member
    simp [Standing.report, Endpoint.standing, Supervisor.name_ne_of_missing found member]
  | some endpoint =>
    obtain ⟨active, present, member⟩ := mem_of_endpoint? found
    have inside : room.supervisor.endpoints = active.endpoints := by
      simp [Supervisor.endpoints, present]
    rw [inside] at distinct
    -- Relaying tells followers about the flags, and nothing to the machine itself.
    refine ⟨rfl, fun host => ?_, ?_⟩
    · refine Agents.onHost_observe_published _ ?_ host
      intro entry told
      simp only [Endpoint.take, Endpoint.flagsStep, EndpointTurn.ofReaction, Endpoint.takeFlags,
        Reaction.trace, List.map_map, List.mem_map] at told
      obtain ⟨⟨flag, value⟩, _, rfl⟩ := told
      exact ⟨_, rfl⟩
    · simp only [Supervisor.endpoints, afterEndpointTurn, present, Option.map_some, Room.replace,
        List.map_map]
      refine List.map_congr_left ?_
      intro other among
      have named : endpoint.name = name := by
        simp only [Supervisor.endpoint?, present, Option.bind_some] at found
        exact Room.name_of_endpoint? found
      have kept : (endpoint.take room.world room.locate .relayFlags).reaction.endpoint.name =
          endpoint.name := rfl
      -- The endpoint takes its own place, as it is the only one of its name.
      simp only [Function.comp_apply, kept]
      by_cases own : other.name = name
      · have same : other = endpoint :=
          eq_of_text_eq distinct among member (own.trans named.symm)
        subst same
        simp only [beq_self_eq_true, if_true, Standing.report]
        rw [if_pos (by simpa [Endpoint.standing] using own)]
        exact other.takeFlags_standing _
      · simp [Standing.report, Endpoint.standing, own, named]

/-- Machines that relay their flags report what their agents show. -/
theorem run_relays (distinct : (names room.supervisor.endpoints).Nodup) (reporting : List String) :
    room.Reported reporting (room.run (reporting.map fun name => .on name .relayFlags)) := by
  -- Reports do not change what agents show, so every later one reports the same.
  induction reporting generalizing room with
  | nil => exact ⟨rfl, fun _ => rfl, by simp [run, Standing.report]⟩
  | cons name rest ih =>
    have first := take_relay distinct name
    obtain ⟨demoServer, agents, standings⟩ := ih (first.names_eq ▸ distinct)
    refine ⟨demoServer.trans first.demoServer,
      fun host => (agents host).trans (first.agents host), ?_⟩
    have same : Standing.report (room.take (.on name .relayFlags)).2.world.agents rest =
        Standing.report room.world.agents rest := by
      funext standing
      simp [Standing.report, first.agents]
    rw [first.standings, same, List.map_map, List.map_map] at standings
    simpa [Function.comp_def, Standing.report_cons, run] using standings

/-- When all machines relay their flags at once, each reports what its agent shows. -/
theorem take_relayFlags (room : Classroom) :
    room.Reported (names room.supervisor.endpoints) (room.take .relayFlags).2 := by
  refine ⟨by simp [take, relayFlags, withEndpoints], fun _ => rfl, ?_⟩
  have places : (room.take .relayFlags).2.supervisor.endpoints =
      room.supervisor.endpoints.map fun endpoint =>
        (endpoint.takeFlags (room.world.agents.onHost endpoint.ip).mask).2.endpoint := by
    cases present : room.supervisor.room <;>
      simp [take, relayFlags, withEndpoints, Supervisor.endpoints, present]
  -- Nobody is left out, so every endpoint has reported.
  rw [places, List.map_map, List.map_map]
  refine List.map_congr_left ?_
  intro endpoint member
  have named : endpoint.standing.name ∈ names room.supervisor.endpoints :=
    List.mem_map.mpr ⟨endpoint, member, rfl⟩
  simp only [Function.comp_apply, Standing.report, if_pos named]
  exact endpoint.takeFlags_standing _

/-- Whatever a machine shows after it reported, an agent shows that was asked about it. -/
theorem Reported.exists_origin {reporting : List String} (reported : room.Reported reporting after)
    (all : ∀ endpoint ∈ room.supervisor.endpoints, endpoint.name ∈ reporting)
    (member : endpoint ∈ after.supervisor.endpoints) :
    ∃ before ∈ room.supervisor.endpoints, ∀ flag,
      endpoint.shows flag = (room.world.agents.onHost before.ip).mask.contains flag := by
  -- How it stands now is how somebody stood before, but for what that one reported.
  have placed : endpoint.standing ∈ after.supervisor.endpoints.map (·.standing) :=
    List.mem_map_of_mem member
  rw [reported.standings, List.map_map] at placed
  obtain ⟨before, inside, alike⟩ := List.mem_map.mp placed
  refine ⟨before, inside, fun flag => ?_⟩
  have shown := congrArg (Standing.shows · flag) alike
  have told : before.standing.name ∈ reporting := all before inside
  simp only [Function.comp_apply, Standing.report_shows, if_pos told] at shown
  exact shown.symm

/-- No demo is known of once all machines have reported that none is running on them. -/
theorem Reported.demoless {reporting : List String} (reported : room.Reported reporting after)
    (all : ∀ endpoint ∈ room.supervisor.endpoints, endpoint.name ∈ reporting)
    (clean : ∀ endpoint ∈ room.supervisor.endpoints, ∀ flag ∈ [Flag.demoServer, Flag.demoClient],
      (room.world.agents.onHost endpoint.ip).mask.contains flag = false) :
    after.supervisor.demoActive = false ∧ after.supervisor.showing .demoServer = [] ∧
      after.supervisor.showing .demoClient = [] := by
  -- What an endpoint shows once it has reported is what its host had before.
  have dark : ∀ endpoint ∈ after.supervisor.endpoints,
      ∀ flag ∈ [Flag.demoServer, Flag.demoClient], endpoint.shows flag = false := by
    intro endpoint member flag demo
    obtain ⟨before, inside, shown⟩ := reported.exists_origin all member
    exact (shown flag).trans (clean before inside flag demo)
  cases present : after.supervisor.room with
  | none => simp [Supervisor.demoActive, Supervisor.showing, present]
  | some active =>
    simp only [Supervisor.endpoints, present] at dark
    refine ⟨?_, ?_, ?_⟩
    · simp only [Supervisor.demoActive, present, Option.any_some, Room.demoActive,
        List.any_eq_false, Bool.or_eq_true, not_or]
      intro endpoint member
      simp [dark endpoint member]
    · simpa [Supervisor.showing, present, Room.showing] using
        fun endpoint member => dark endpoint member .demoServer (by simp)
    · simpa [Supervisor.showing, present, Room.showing] using
        fun endpoint member => dark endpoint member .demoClient (by simp)

end Classroom

end ComputerRoom
