import ComputerRoom.Proofs.Room.StartPlan
import ComputerRoom.Proofs.Simulation.Demo
import ComputerRoom.Proofs.Simulation.NameOrder

/-!
The course of a demo's start in any room that a classroom can come to: who hears what, in which
order, and what is left of the demos before.
-/

namespace ComputerRoom

section Hearing

variable {endpoints clients : List Endpoint} {settings : Settings} {roster : Roster}
  {fullscreen : Bool} {host : Endpoint}

/-- The machine that serves hears what makes it serve, and nothing of what its clients are told. -/
theorem heard_of_host (apart : (endpoints.map (·.ip)).Nodup) (inside : host ∈ endpoints)
    (among : ∀ client ∈ clients, client ∈ endpoints ∧ client.name ≠ host.name)
    (serving : List Command) :
    heard host.ip (serving.map (fun command => (host.ip, command)) ++
      clients.flatMap (Endpoint.showDemo settings roster host.ip fullscreen)) = serving := by
  -- A client at the address of the server would be the server itself.
  have away : ∀ client ∈ clients, client.ip ≠ host.ip := by
    intro client member same
    obtain ⟨there, other⟩ := among client member
    exact other (congrArg (·.name) (eq_of_text_eq apart there inside same))
  rw [heard_append, heard_at, if_pos rfl, Endpoint.heard_showDemo_elsewhere away,
    List.append_nil]

/-- Every other machine hears how to watch if it is a client, and nothing else. -/
theorem heard_of_other (apart : (endpoints.map (·.ip)).Nodup) (inside : host ∈ endpoints)
    (among : clients.Sublist endpoints) {endpoint : Endpoint} (member : endpoint ∈ endpoints)
    (other : endpoint.name ≠ host.name) (serving : List Command) :
    heard endpoint.ip (serving.map (fun command => (host.ip, command)) ++
        clients.flatMap (Endpoint.showDemo settings roster host.ip fullscreen)) =
      if endpoint ∈ clients then [.stopDemo, .unlockScreen, .unlockInput,
        .startDemo host.ip settings.demoPort (fullscreen && endpoint.fillsScreen roster)]
      else [] := by
  have elsewhere : host.ip ≠ endpoint.ip := fun same =>
    other (congrArg (·.name) (eq_of_text_eq apart inside member same)).symm
  rw [heard_append, heard_at, if_neg elsewhere, List.nil_append]
  by_cases watching : endpoint ∈ clients
  · rw [if_pos watching]
    exact Endpoint.heard_showDemo ((among.map _).nodup apart) watching
  · -- Only a client has the address of a client.
    rw [if_neg watching]
    refine Endpoint.heard_showDemo_elsewhere fun client client_member same => watching ?_
    exact eq_of_text_eq apart (among.subset client_member) member same ▸ client_member

end Hearing

namespace Classroom

/--
The course of a demo's start, in any room whose addresses are distinct. Demos before it are ended if
there are any. If the server is ready, it is started anew, shuts out whoever is still let in, and
lets in just those who will watch, in the order of their names; then each of them is told to watch,
and nobody else is told anything. If there is no such server, nothing more happens.
-/
theorem startDemo_course (settings : Settings) (roster : Roster) (prober : Option Prober)
    (steps : List ClassroomStep) (server : String) (fullscreen : Bool)
    (apart : (((new settings roster prober).run steps).supervisor.endpoints.map (·.ip)).Nodup) :
    let room := (new settings roster prober).run steps
    let supervisor := room.supervisor
    let settings := room.world.settings
    let roster := room.world.roster
    let ended : Turn :=
      if supervisor.demoServer.isSome || supervisor.demoActive then supervisor.stopDemo settings
      else ⟨supervisor, [], []⟩
    let outcome := supervisor.startDemo settings roster server fullscreen
    let clients := supervisor.endpoints.filter fun endpoint =>
      endpoint.name != server && endpoint.machine.platform.showsDemos && endpoint.isReady
    let viewers := clients.map (·.ip)
    (clients.map (·.name)).Pairwise (· < ·) ∧
      (∀ host, supervisor.endpoint? server = some host → host.isReady = true →
        ∃ granted, (ended.supervisor.endpoint? server).map (·.viewers) = some granted ∧
          let serving : List Command :=
            [.stopDemoServer, .startDemoServer settings.vncPort settings.demoPort] ++
              granted.map .denyHost ++ viewers.map .allowHost
          let watching (client : Endpoint) : List Command :=
            [.stopDemo, .unlockScreen, .unlockInput, .startDemo host.ip settings.demoPort
              (fullscreen && client.fillsScreen roster)]
          let told := serving.map (fun command => (host.ip, command)) ++
            clients.flatMap fun client => (watching client).map fun command => (client.ip, command)
          outcome.1 = .ok () ∧
            outcome.2.1.trace = ended.trace ++ Trace.ofCommands told ∧
            heard host.ip told = serving ∧
            (∀ endpoint ∈ supervisor.endpoints, endpoint.name ≠ server →
              heard endpoint.ip told = if endpoint ∈ clients then watching endpoint else []) ∧
            (outcome.2.1.supervisor.endpoint? server).map (·.viewers) = some viewers ∧
            outcome.2.1.supervisor.demoServer = some server) ∧
      (supervisor.endpoint? server = none →
        outcome.1 = .error (.unknownEndpoint server) ∧ outcome.2.1.trace = ended.trace ∧
          outcome.2.1.supervisor.demoServer = none) := by
  intro room supervisor settings' roster' ended outcome clients viewers
  have regular : ∀ active, supervisor.room = some active → active.Regular :=
    fun active => run_regular settings roster prober steps
  have ascending : Ascending supervisor.endpoints :=
    @run_ascending (new settings roster prober) List.Pairwise.nil steps
  refine ⟨ascending.filter _, ?_, ?_⟩
  · intro host located ready
    obtain ⟨active, present, found⟩ := Option.bind_eq_some_iff.mp located
    have inside : supervisor.endpoints = active.endpoints := by
      simp [Supervisor.endpoints, present]
    have addresses : (active.endpoints.map (·.ip)).Nodup := inside ▸ apart
    have watching : active.audience server = clients := by
      simp only [clients, inside]
      rfl
    obtain ⟨done, recorded, _⟩ := @Supervisor.startDemo_of_found settings' supervisor active server
      (regular active present) present host found roster' fullscreen
    obtain ⟨paused, there, alike, trace, admitted⟩ :=
      @Supervisor.startDemo_of_ready settings' supervisor active server (regular active present)
        present addresses host found ready roster' fullscreen
    rw [watching] at trace admitted
    -- What was told is split by addresses into what each machine heard.
    have member : host ∈ supervisor.endpoints := inside ▸ List.mem_of_find?_eq_some found
    have named : host.name = server := Room.name_of_endpoint? found
    refine ⟨paused.viewers, congrArg (Option.map (·.viewers)) there, done, trace, ?_, ?_,
      admitted, recorded⟩
    · refine heard_of_host apart member ?_ _
      intro client chosen
      obtain ⟨within, kind⟩ := List.mem_filter.mp chosen
      simp only [Bool.and_eq_true, bne_iff_ne] at kind
      exact ⟨within, named ▸ kind.1.1⟩
    · intro endpoint among other
      exact heard_of_other apart member List.filter_sublist among (named ▸ other) _
  · exact Supervisor.startDemo_of_unknown regular roster' fullscreen

/-- A client takes over as the server of a running demo, which a machine unknown only ends. -/
theorem startDemo_course_taken_over :
    let steps := .select "lab" :: (becomeReady "pc01" ++ becomeReady "pc02" ++
      [.startDemo "pc02" true, .relayFlags])
    let room := (new labSettings labRoster none).run steps
    let started := room.supervisor.startDemo room.world.settings room.world.roster "pc01" true
    let failed := room.supervisor.startDemo room.world.settings room.world.roster "pc09" true
    let ending : List (String × Command) := [("10.0.0.12", .denyHost "10.0.0.11"),
      ("10.0.0.12", .stopDemoServer), ("10.0.0.11", .stopDemo)]
    (room.supervisor.endpoints.map (·.ip)).Nodup ∧
      started.2.1.trace = Trace.ofCommands (ending ++ [("10.0.0.11", .stopDemoServer),
        ("10.0.0.11", .startDemoServer 11100 11400), ("10.0.0.11", .allowHost "10.0.0.12"),
        ("10.0.0.12", .stopDemo), ("10.0.0.12", .unlockScreen), ("10.0.0.12", .unlockInput),
        ("10.0.0.12", .startDemo "10.0.0.11" 11400 false)]) ∧
      (started.2.1.supervisor.endpoint? "pc01").map (·.viewers) = some ["10.0.0.12"] ∧
      started.2.1.supervisor.demoServer = some "pc01" ∧
      failed.1 = .error (.unknownEndpoint "pc09") ∧
      failed.2.1.trace = Trace.ofCommands ending ∧ failed.2.1.supervisor.demoServer = none := by
  intro steps room started failed ending
  have apart : (room.supervisor.endpoints.map (·.ip)).Nodup := by decide +kernel
  let host := (room.supervisor.endpoint? "pc01").get (by decide +kernel)
  have found : room.supervisor.endpoint? "pc01" = some host := (Option.some_get _).symm
  obtain ⟨_, serves, _⟩ := startDemo_course labSettings labRoster none steps "pc01" true apart
  obtain ⟨_, _, fails⟩ := startDemo_course labSettings labRoster none steps "pc09" true apart
  obtain ⟨granted, still, _, trace, _, _, admitted, recorded⟩ :=
    serves host found (by decide +kernel)
  -- The demo that is taken over let nobody watch on the machine that was its client.
  have none : some granted = some [] := still.symm.trans (by decide +kernel)
  cases none
  obtain ⟨unknown, only, forgotten⟩ := fails (by decide +kernel)
  refine ⟨apart, ?_, ?_, recorded, unknown, ?_, forgotten⟩
  · rw [trace]
    decide +kernel
  · rw [admitted]
    decide +kernel
  · rw [only]
    decide +kernel

end Classroom

end ComputerRoom
