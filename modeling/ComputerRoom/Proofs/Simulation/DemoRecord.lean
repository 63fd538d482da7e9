import ComputerRoom.Proofs.Room.Selection
import ComputerRoom.Proofs.Room.StopPlan
import ComputerRoom.Proofs.Simulation.NameOrder

/-!
A machine that is recorded as the server of a demo is in the active room at any time, so that ending
demos reaches it, and leaving the room forgets it.
-/

namespace ComputerRoom

/-- A supervisor that has its endpoints in order, and among them the recorded server of a demo. -/
structure Supervisor.KeepsRecord (supervisor : Supervisor) : Prop where
  ascending : Ascending supervisor.endpoints
  present : ∀ name ∈ supervisor.demoServer, name ∈ names supervisor.endpoints

namespace Supervisor

variable {supervisor : Supervisor}

/-- A name of the active room is that of an endpoint found under it. -/
theorem exists_endpoint? {name : String} (member : name ∈ names supervisor.endpoints) :
    ∃ active endpoint, supervisor.room = some active ∧ active.endpoint? name = some endpoint ∧
      endpoint.name = name := by
  cases present : supervisor.room with
  | none => simp [endpoints, names, present] at member
  | some active =>
    simp only [endpoints, present] at member
    obtain ⟨endpoint, inside, named⟩ := List.mem_map.mp member
    cases found : active.endpoint? name with
    | none =>
      have missed := List.find?_eq_none.mp found endpoint inside
      simp [named] at missed
    | some other => exact ⟨active, other, rfl, found, Room.name_of_endpoint? found⟩

/-- Ending demos forgets the recorded server. -/
theorem stopDemo_demoServer (settings : Settings) (supervisor : Supervisor) :
    (supervisor.stopDemo settings).supervisor.demoServer = none := by
  unfold stopDemo
  split <;> rfl

/-- Nothing is recorded once demos are ended, even if there was none to end. -/
theorem stopDemoIfAny_demoServer (settings : Settings) (supervisor : Supervisor) :
    (supervisor.stopDemoIfAny settings).supervisor.demoServer = none := by
  unfold stopDemoIfAny
  split
  · exact stopDemo_demoServer settings supervisor
  · rename_i idle
    cases recorded : supervisor.demoServer with
    | none => rfl
    | some name => simp [recorded] at idle

/-- Whoever is recorded when a demo was started was in the room before. -/
theorem startDemo_demoServer (settings : Settings) (roster : Roster) (server : String)
    (fullscreen : Bool) (distinct : (names supervisor.endpoints).Nodup) :
    ∀ name ∈ (supervisor.startDemo settings roster server fullscreen).2.1.supervisor.demoServer,
      name ∈ names supervisor.endpoints := by
  -- The server is looked for among the names that ending the demo before has left in place.
  have forgotten := stopDemoIfAny_demoServer settings supervisor
  have kept := stopDemoIfAny_names settings distinct
  unfold startDemo
  generalize supervisor.stopDemoIfAny settings = ended at forgotten kept
  obtain ⟨⟨school, active, demoServer, created⟩, trace, released⟩ := ended
  obtain rfl : demoServer = none := forgotten
  cases active with
  | none => simp
  | some active =>
    cases found : active.endpoint? server with
    | none => simp [found]
    | some host =>
      have member : host ∈ active.endpoints := List.mem_of_find?_eq_some found
      have named : server ∈ names active.endpoints :=
        List.mem_map.mpr ⟨host, member, Room.name_of_endpoint? found⟩
      simp only [found, Option.bind_eq_bind, Option.bind_some, Option.pure_def]
      rintro name same
      obtain rfl : server = name := by simpa using same
      exact kept ▸ named

end Supervisor

namespace Classroom

variable {room : Classroom}

/-- Leaving the active room forgets the recorded server, even if there is no room to go to. -/
theorem take_demoServer_of_leavesRoom {step : ClassroomStep} (leaves : step.leavesRoom = true) :
    (room.take step).2.supervisor.demoServer = none := by
  have cleared : room.supervisor.clear.supervisor.demoServer = none := by
    rw [Supervisor.clear_eq]
  cases step with
  | select query =>
    simp only [take, afterTurn, Supervisor.select]
    split <;> exact cleared
  | setSchool | clear => exact cleared
  | _ => contradiction

/-- Every step keeps the recorded server in the room, or forgets it. -/
theorem take_keepsRecord (keeps : room.supervisor.KeepsRecord) (step : ClassroomStep) :
    (room.take step).2.supervisor.KeepsRecord := by
  have distinct := keeps.ascending.distinct
  refine ⟨take_ascending keeps.ascending step, ?_⟩
  -- Where the room is left nothing is recorded, and elsewhere all names stay in place.
  cases leaves : step.leavesRoom with
  | true => simp [take_demoServer_of_leavesRoom leaves]
  | false =>
    rw [take_names distinct leaves]
    cases step with
    | select | setSchool | clear => contradiction
    | startDemo server fullscreen =>
      exact Supervisor.startDemo_demoServer _ _ server fullscreen distinct
    | stopDemo => simp [take, afterTurn, Supervisor.stopDemo_demoServer]
    | on name step =>
      simp only [take, takeOn]
      split <;> exact keeps.present
    | onHeld name step =>
      simp only [take, takeOnHeld, takeOn]
      split
      · exact keeps.present
      · split <;> split <;> exact keeps.present
      · exact keeps.present
    | hold name =>
      simp only [take, hold]
      split <;> exact keeps.present
    | _ => exact keeps.present

/-- Any run keeps the recorded server in the room, or forgets it. -/
theorem run_keepsRecord (keeps : room.supervisor.KeepsRecord) (steps : List ClassroomStep) :
    (room.run steps).supervisor.KeepsRecord := by
  -- Each step goes on from the classroom that the one before it left.
  induction steps generalizing room with
  | nil => exact keeps
  | cons step rest ih => exact ih (take_keepsRecord keeps step)

/--
After any steps, whoever is recorded as the server of a demo is found in the active room under that
name; ending demos has one order for it, and reaches it if it is ready. Every endpoint of the room
is found under its own name, and no two share one. Selecting a room, even in vain, choosing a school
and clearing leave nothing recorded.
-/
theorem recorded_server_in_room (settings : Settings) (roster : Roster) (prober : Option Prober)
    (steps : List ClassroomStep) :
    let room := (new settings roster prober).run steps
    let recorded := room.supervisor.demoServer
    (∀ name, recorded = some name →
      ∃ active server, room.supervisor.room = some active ∧
        active.endpoint? name = some server ∧ server.name = name ∧
        (active.stopPlan recorded).count (name, .stopDemoServer) = 1 ∧
        (server.isReady = true → (server.ip, .stopDemoServer) ∈
          Trace.actions (room.supervisor.stopDemo room.world.settings).trace)) ∧
      (∀ active, room.supervisor.room = some active →
        (names active.endpoints).Nodup ∧
          ∀ endpoint ∈ active.endpoints, active.endpoint? endpoint.name = some endpoint) ∧
      ∀ step : ClassroomStep, step.leavesRoom = true →
        (room.take step).2.supervisor.demoServer = none := by
  intro room recorded
  have keeps : room.supervisor.KeepsRecord :=
    @run_keepsRecord (new settings roster prober) ⟨List.Pairwise.nil, by simp [new, Supervisor.new]⟩
      steps
  refine ⟨?_, ?_, fun step leaves => take_demoServer_of_leavesRoom leaves⟩
  · intro name named
    obtain ⟨active, server, present, found, own⟩ :=
      Supervisor.exists_endpoint? (keeps.present name named)
    have regular := run_regular settings roster prober steps present
    have member : server ∈ active.endpoints := List.mem_of_find?_eq_some found
    have counted := Room.count_stopPlan_server regular.distinct member recorded
    rw [own, if_pos (.inr named)] at counted
    refine ⟨active, server, present, found, own, counted, ?_⟩
    intro ready
    -- The order is carried out where the name leads to a machine that is ready.
    simp only [Supervisor.stopDemo, present]
    rw [Room.performAll_actions regular]
    refine List.mem_flatMap.mpr ⟨(name, .stopDemoServer), List.count_pos_iff.mp ?_, ?_⟩
    · exact counted ▸ Nat.one_pos
    · simp [Room.readyIp?, found, Endpoint.readyIp?, ready]
  · intro active present
    have regular := run_regular settings roster prober steps present
    exact ⟨regular.distinct, fun endpoint member => Room.endpoint?_of_mem regular.distinct member⟩

/-- A server whose flag is not reported yet is told to stop, and forgotten by a choice in vain. -/
theorem recorded_server_in_room_unreported :
    let steps := .select "lab" :: (becomeReady "pc01" ++ [.startDemo "pc01" true])
    let room := (new labSettings labRoster none).run steps
    room.supervisor.demoServer = some "pc01" ∧ room.supervisor.showing .demoServer = [] ∧
      ("10.0.0.11", .stopDemoServer) ∈
        Trace.actions (room.supervisor.stopDemo room.world.settings).trace ∧
      (room.take (.select "nowhere")).2.supervisor.demoServer = none := by
  intro steps room
  have named : room.supervisor.demoServer = some "pc01" := by decide +kernel
  have standing : (room.supervisor.endpoint? "pc01").map (fun server => (server.ip, server.isReady))
      = some ("10.0.0.11", true) := by decide +kernel
  obtain ⟨there, _, forgets⟩ := recorded_server_in_room labSettings labRoster none steps
  obtain ⟨active, server, present, found, _, _, reached⟩ := there "pc01" named
  obtain ⟨located, ready⟩ : server.ip = "10.0.0.11" ∧ server.isReady = true := by
    simpa [room, Supervisor.endpoint?, present, found] using standing
  exact ⟨named, by decide +kernel, located ▸ reached ready, forgets (.select "nowhere") rfl⟩

end Classroom

end ComputerRoom
