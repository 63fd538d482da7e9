import ComputerRoom.Proofs.Simulation.Ledger

/-! The endpoints of the active room are in the ascending order of their names at any time. -/

namespace ComputerRoom

/-- Endpoints in strictly ascending order of their names. -/
def Ascending (endpoints : List Endpoint) : Prop :=
  (names endpoints).Pairwise (· < ·)

namespace Ascending

variable {endpoints : List Endpoint}

/-- Names that ascend are all different. -/
theorem distinct (ascending : Ascending endpoints) : (names endpoints).Nodup := by
  refine List.nodup_iff_pairwise_ne.mpr (ascending.imp ?_)
  rintro name other before rfl
  exact String.lt_irrefl name before

/-- The order goes by names alone. -/
theorem of_names_eq (ascending : Ascending endpoints) {after : List Endpoint}
    (same : names after = names endpoints) : Ascending after := by
  unfold Ascending
  rw [same]
  exact ascending

/-- Any of the endpoints are in the order that all of them are in. -/
theorem filter (ascending : Ascending endpoints) (chosen : Endpoint → Bool) :
    Ascending (endpoints.filter chosen) :=
  ascending.sublist (List.filter_sublist.map _)

/-- An endpoint of a new name is put where it belongs. -/
theorem insert (ascending : Ascending endpoints) {endpoint : Endpoint}
    (free : ∀ other ∈ endpoints, other.name ≠ endpoint.name) :
    Ascending (Room.insert endpoint endpoints) := by
  -- The endpoint stops in front of the first one that comes after it.
  induction endpoints with
  | nil => exact List.pairwise_singleton ..
  | cons other rest ih =>
    obtain ⟨first, later⟩ := List.pairwise_cons.mp ascending
    obtain ⟨unlike, fresh⟩ := List.forall_mem_cons.mp free
    unfold Room.insert
    split
    · rename_i before
      refine List.pairwise_cons.mpr ⟨?_, ascending⟩
      intro name member
      rcases List.mem_cons.mp member with rfl | behind
      · exact before
      · exact String.lt_trans before (first name behind)
    · rename_i passed
      refine List.pairwise_cons.mpr ⟨?_, ih later fresh⟩
      -- Whoever comes after the first one is the endpoint itself, or was there before.
      intro name member
      have among := ((Room.insert_perm endpoint rest).map (·.name)).mem_iff.mp member
      rcases List.mem_cons.mp among with rfl | behind
      · exact Std.lt_of_le_of_ne (String.not_lt.mp passed) unlike
      · exact first name behind

/-- A member that is added to an opening is put where it belongs. -/
theorem addMember {opening : Opening} (ascending : Ascending opening.endpoints)
    (equipment : Equipment) (directory : Directory) (id : String) :
    Ascending (opening.addMember equipment directory id).endpoints := by
  -- A member that cannot be opened is left out, and so is one whose name is taken.
  unfold Opening.addMember
  split
  · exact ascending
  · split
    · exact ascending
    · rename_i endpoint created
      split
      · exact ascending
      · rename_i unnamed
        have moves := endpoint.launch_moves equipment.settings equipment.now
        have named : (endpoint.launch equipment.settings equipment.now).endpoint.name =
            endpoint.name := congrArg Machine.name moves.machine_eq
        refine ascending.insert fun other member same => unnamed ?_
        exact List.any_eq_true.mpr ⟨other, member, by simpa [named] using same⟩

end Ascending

namespace Supervisor

variable {supervisor : Supervisor}

/-- The machines of a room that is selected are put in order. -/
theorem select_ascending (equipment : Equipment) (directory : Directory) (query : String)
    (supervisor : Supervisor) :
    Ascending (supervisor.select equipment directory query).2.supervisor.endpoints := by
  -- The members are added one after the other, to nobody of the room before.
  have opened : ∀ (ids : List String) (opening : Opening), Ascending opening.endpoints →
      Ascending (ids.foldl (Opening.addMember equipment directory) opening).endpoints := by
    intro ids
    induction ids with
    | nil => exact fun _ before => before
    | cons id rest ih => exact fun _ before => ih _ (before.addMember equipment directory id)
  cases resolved : supervisor.clear.supervisor.resolve directory query with
  | error failure =>
    simp only [select, resolved, supervisor.clear_sound.2]
    exact List.Pairwise.nil
  | ok record =>
    simp only [select, resolved]
    exact opened record.memberIds ⟨[], [], _⟩ List.Pairwise.nil

/-- Ending demos leaves all names as they are. -/
theorem stopDemo_names (settings : Settings) (distinct : (names supervisor.endpoints).Nodup) :
    names (supervisor.stopDemo settings).supervisor.endpoints = names supervisor.endpoints := by
  obtain ⟨school, active, demoServer, created⟩ := supervisor
  cases active with
  | none => rfl
  | some active => exact (active.performAll_evolves settings _ distinct).names_eq

/-- Ending demos leaves all names as they are, whether or not there is one. -/
theorem stopDemoIfAny_names (settings : Settings) (distinct : (names supervisor.endpoints).Nodup) :
    names (supervisor.stopDemoIfAny settings).supervisor.endpoints =
      names supervisor.endpoints := by
  unfold stopDemoIfAny
  split
  · exact stopDemo_names settings distinct
  · rfl

/-- Starting a demo leaves all names as they are. -/
theorem startDemo_names (settings : Settings) (roster : Roster) (server : String)
    (fullscreen : Bool) (distinct : (names supervisor.endpoints).Nodup) :
    names (supervisor.startDemo settings roster server fullscreen).2.1.supervisor.endpoints =
      names supervisor.endpoints := by
  -- The orders to start go to the room in which the demo before was ended.
  have stopped := stopDemoIfAny_names settings distinct
  unfold startDemo
  generalize supervisor.stopDemoIfAny settings = ended at stopped
  obtain ⟨⟨school, active, demoServer, created⟩, trace, released⟩ := ended
  cases active with
  | none => exact stopped
  | some active =>
    cases found : active.endpoint? server with
    | none => simpa [found] using stopped
    | some host =>
      simp only [found, Option.bind_eq_bind, Option.bind_some, Option.pure_def]
      have kept := active.performAll_evolves settings
        (Room.startPlan host (Room.seated roster (active.audience server)).1 fullscreen)
        (stopped ▸ distinct)
      exact kept.names_eq.trans stopped

end Supervisor

/-- Whether a step leaves the active room, for another one or for none. -/
def ClassroomStep.leavesRoom : ClassroomStep → Bool
  | select _ | setSchool _ | clear => true
  | _ => false

namespace Classroom

variable {room : Classroom}

/-- A step on an endpoint of the active room leaves all names as they are. -/
theorem takeOn_names (distinct : (names room.supervisor.endpoints).Nodup) (name : String)
    (step : EndpointStep String) :
    names (room.takeOn name step).2.supervisor.endpoints = names room.supervisor.endpoints := by
  unfold Classroom.takeOn
  cases found : room.supervisor.endpoint? name with
  | none => rfl
  | some endpoint =>
    obtain ⟨active, present, member⟩ := mem_of_endpoint? found
    have inside : room.supervisor.endpoints = active.endpoints := by
      simp [Supervisor.endpoints, present]
    have moves := endpoint.take_moves room.world room.locate step
    have placed := (Evolves.replace (inside ▸ distinct) member moves).names_eq
    rw [inside, ← placed]
    simp [Supervisor.endpoints, afterEndpointTurn, present, Room.replace]

/-- Every step that stays with the active room leaves all names as they are. -/
theorem take_names (distinct : (names room.supervisor.endpoints).Nodup) {step : ClassroomStep}
    (stays : step.leavesRoom = false) :
    names (room.take step).2.supervisor.endpoints = names room.supervisor.endpoints := by
  -- Endpoints go on in their places, or the step only looks.
  cases step with
  | select | setSchool | clear => contradiction
  | world step =>
    have evolves := (room.world.take_leadsTo room.supervisor.endpoints step).1
    simp only [take]
    rw [withEndpoints_endpoints evolves]
    exact evolves.names_eq
  | startDemo server fullscreen => exact Supervisor.startDemo_names _ _ server fullscreen distinct
  | stopDemo => exact Supervisor.stopDemo_names _ distinct
  | relayFlags =>
    cases present : room.supervisor.room with
    | none => simp [take, relayFlags, withEndpoints, Supervisor.endpoints, present]
    | some active =>
      simp [take, relayFlags, withEndpoints, Supervisor.endpoints, present, names,
        Endpoint.takeFlags, Endpoint.name]
  | on name step => exact takeOn_names distinct name step
  | onHeld name step =>
    -- A hold in the room is a name for an endpoint of the room; others are in no room.
    have taken := takeOn_names distinct name step
    simp only [take, takeOnHeld]
    split
    · rfl
    · split <;> exact taken
    · rfl
  | hold name =>
    simp only [take, hold]
    split <;> rfl
  | usernames | ips | user | knownUsers => rfl

/-- Every step leaves the endpoints of the active room in order. -/
theorem take_ascending (ascending : Ascending room.supervisor.endpoints) (step : ClassroomStep) :
    Ascending (room.take step).2.supervisor.endpoints := by
  -- A room that is selected is put in order, and a room that is left has no endpoints any more.
  cases step with
  | select query => exact room.supervisor.select_ascending room.equipment _ query
  | setSchool school =>
    have empty : (room.supervisor.setSchool school).supervisor.endpoints = [] :=
      room.supervisor.clear_sound.2
    simp only [take, afterTurn, empty]
    exact List.Pairwise.nil
  | clear =>
    simp only [take, afterTurn, room.supervisor.clear_sound.2]
    exact List.Pairwise.nil
  | _ => exact ascending.of_names_eq (take_names ascending.distinct rfl)

/-- Every run of steps leaves the endpoints of the active room in order. -/
theorem run_ascending (ascending : Ascending room.supervisor.endpoints)
    (steps : List ClassroomStep) : Ascending (room.run steps).supervisor.endpoints := by
  -- Each step goes on from the classroom that the one before it left.
  induction steps generalizing room with
  | nil => exact ascending
  | cons step rest ih => exact ih (take_ascending ascending step)

end Classroom

end ComputerRoom
