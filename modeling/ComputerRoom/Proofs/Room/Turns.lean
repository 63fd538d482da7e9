import ComputerRoom.Proofs.Simulation.Settlement
import ComputerRoom.Room.Broadcast
import ComputerRoom.Room.Selection

/-! Turns of a supervisor settle what its endpoints hold, whichever rooms come and go. -/

namespace ComputerRoom

/-- A turn that settles, gives up only endpoints that hold nothing, and keeps names apart. -/
structure Turn.Sound (supervisor : Supervisor) (turn : Turn) : Prop where
  settles : Settles supervisor.endpoints turn.trace turn.supervisor.endpoints
  released : ∀ endpoint ∈ turn.released, endpoint.channel = .closed
  distinct : (names turn.supervisor.endpoints).Nodup

namespace Room

/-- Inserting an endpoint adds it, and only it. -/
theorem insert_perm (endpoint : Endpoint) (endpoints : List Endpoint) :
    (insert endpoint endpoints).Perm (endpoint :: endpoints) := by
  -- The endpoint passes others on its way, one at a time.
  induction endpoints with
  | nil => exact .refl _
  | cons other rest ih =>
    unfold insert
    split
    · exact .refl _
    · exact (ih.cons other).trans (.swap endpoint other rest)

/-- Closing a room settles all that its endpoints hold, and leaves their links closed. -/
theorem close_settles (room : Room) :
    Settles room.endpoints room.close.2 [] ∧
      ∀ endpoint ∈ room.close.1.endpoints, endpoint.channel = .closed := by
  -- All endpoints close together, and closed ones go unnoticed.
  have closed : ∀ endpoint ∈ room.close.1.endpoints, endpoint.channel = .closed := by
    intro endpoint member
    simp only [close, List.map_map] at member
    obtain ⟨before, _, rfl⟩ := List.mem_map.mp member
    exact before.close_channel
  have evolves := Evolves.map room.endpoints Endpoint.close Endpoint.close_moves
  have settled : Settles room.endpoints room.close.2 room.close.1.endpoints := by
    simpa [close, List.flatMap_map, Function.comp_def] using evolves.toSettles
  have gone := settled.andThen (Settles.of_closed closed).2
  rw [List.append_nil] at gone
  exact ⟨gone, closed⟩

/-- Orders settle: they are talk, whomever they are given to. -/
theorem performAll_evolves (settings : Settings) (room : Room) (plan : List (String × Order))
    (distinct : (names room.endpoints).Nodup) :
    Evolves room.endpoints (room.performAll settings plan).2
      (room.performAll settings plan).1.endpoints := by
  -- Each order puts one endpoint in its own place, and the names stay as they are.
  induction plan generalizing room with
  | nil => exact .still room.endpoints
  | cons entry rest ih =>
    obtain ⟨name, order⟩ := entry
    unfold performAll
    cases found : room.endpoint? name with
    | none => exact ih room distinct
    | some endpoint =>
      have member : endpoint ∈ room.endpoints := List.mem_of_find?_eq_some found
      have moves := (endpoint.perform_talks settings order).moves
      have placed := Evolves.replace distinct member moves
      let after := room.replace (endpoint.perform settings order).2.endpoint
      exact placed.andThen (ih after (placed.names_eq ▸ distinct))

end Room

namespace Opening

/-- An opening whose endpoints hold just what was opened for them, under names of their own. -/
structure Sound (opening : Opening) : Prop where
  settles : Settles [] opening.trace opening.endpoints
  distinct : (names opening.endpoints).Nodup

/-- An endpoint that is launched under a free name adds just what it opens. -/
theorem launch_sound {opening : Opening} {endpoint : Endpoint} (equipment : Equipment)
    (created : Nat) (sound : opening.Sound) (bare : endpoint.channel = .closed)
    (free : ∀ other ∈ opening.endpoints, other.name ≠ endpoint.name) :
    let launched := endpoint.launch equipment.settings equipment.now
    Sound ⟨Room.insert launched.endpoint opening.endpoints, opening.trace ++ launched.trace,
      created⟩ := by
  intro launched
  have moves := endpoint.launch_moves equipment.settings equipment.now
  -- Inserting permutes, so the new endpoint may be taken to stand before the others.
  have sorted := Room.insert_perm launched.endpoint opening.endpoints
  constructor
  · -- The endpoint holds nothing until it is launched, beside those opened before.
    have fresh : ∀ other ∈ [endpoint], other.channel = .closed := by simpa using bare
    have opened := (Settles.of_closed fresh).1.andThen (Settles.of_moves moves)
    have beside := sound.settles.append opened
    exact beside.perm (List.perm_append_comm.trans sorted.symm)
  · -- Launching does not change the name, and nobody else bears it.
    have named : launched.endpoint.name = endpoint.name := congrArg Machine.name moves.machine_eq
    refine (sorted.map _).nodup_iff.mpr ?_
    rw [List.map_cons, List.nodup_cons]
    refine ⟨?_, sound.distinct⟩
    intro taken
    obtain ⟨other, member, same⟩ := List.mem_map.mp taken
    exact free other member (same.trans named)

/-- A member that is added brings what it opens, and a name that was free. -/
theorem addMember_sound (equipment : Equipment) (directory : Directory) (opening : Opening)
    (id : String) (sound : opening.Sound) :
    (opening.addMember equipment directory id).Sound := by
  -- A member that is left out changes nothing.
  unfold addMember
  split
  · exact sound
  · split
    · exact sound
    · rename_i endpoint created
      split
      · exact sound
      · rename_i unnamed
        have bare : endpoint.channel = .closed := by
          obtain ⟨address, _, rfl⟩ := Endpoint.create_eq_ok_iff.mp created
          rfl
        refine launch_sound equipment _ sound bare ?_
        intro other member same
        exact unnamed (List.any_eq_true.mpr ⟨other, member, by simp [same]⟩)

end Opening

namespace Supervisor

variable {supervisor : Supervisor}

/-- A supervisor that does nothing is sound. -/
theorem idle_sound (distinct : (names supervisor.endpoints).Nodup) {after : Supervisor}
    (same : after.endpoints = supervisor.endpoints) :
    Turn.Sound supervisor ⟨after, [], []⟩ :=
  ⟨same ▸ .still supervisor.endpoints, by simp, same ▸ distinct⟩

/-- Clearing leaves nobody and settles everything. -/
theorem clear_sound (supervisor : Supervisor) :
    Turn.Sound supervisor supervisor.clear ∧ supervisor.clear.supervisor.endpoints = [] := by
  -- Without an active room there is nobody to close.
  obtain ⟨school, active, demoServer, created⟩ := supervisor
  cases active with
  | none => exact ⟨⟨.still [], by simp [clear], List.nodup_nil⟩, rfl⟩
  | some room =>
    obtain ⟨settles, closed⟩ := room.close_settles
    exact ⟨⟨settles, closed, List.nodup_nil⟩, rfl⟩

/-- Choosing a school is sound, as the room is cleared for it. -/
theorem setSchool_sound (supervisor : Supervisor) (school : Option String) :
    Turn.Sound supervisor (supervisor.setSchool school) := by
  -- The school is no part of what endpoints hold.
  obtain ⟨settles, released, distinct⟩ := supervisor.clear_sound.1
  exact ⟨settles, released, distinct⟩

/-- Selecting a room is sound, whether or not there is such a room. -/
theorem select_sound (equipment : Equipment) (directory : Directory) (query : String)
    (supervisor : Supervisor) :
    Turn.Sound supervisor (supervisor.select equipment directory query).2 := by
  -- The room before is cleared in any case, so the new one starts from nothing.
  obtain ⟨cleared, empty⟩ := supervisor.clear_sound
  cases resolved : supervisor.clear.supervisor.resolve directory query with
  | error failure =>
    simp only [select, resolved]
    exact cleared
  | ok record =>
    -- Every member that can be supervised is added to what was opened before.
    have opened : ∀ (ids : List String) (opening : Opening), opening.Sound →
        (ids.foldl (Opening.addMember equipment directory) opening).Sound := by
      intro ids
      induction ids with
      | nil => exact fun _ sound => sound
      | cons id rest ih =>
        exact fun opening sound => ih _ (opening.addMember_sound equipment directory id sound)
    have none_yet : Opening.Sound ⟨[], [], supervisor.clear.supervisor.created⟩ :=
      ⟨.still [], List.nodup_nil⟩
    obtain ⟨settles, distinct⟩ := opened record.memberIds _ none_yet
    simp only [select, resolved]
    exact ⟨cleared.settles.andThen (empty ▸ settles), cleared.released, distinct⟩

/-- Orders that are given all over the active room are sound. -/
theorem performAll_sound {active : Room} (settings : Settings) (plan : List (String × Order))
    (distinct : (names active.endpoints).Nodup) {supervisor after : Supervisor}
    (before : supervisor.endpoints = active.endpoints)
    (same : after.endpoints = (active.performAll settings plan).1.endpoints) :
    Turn.Sound supervisor ⟨after, (active.performAll settings plan).2, []⟩ := by
  -- The endpoints evolve in their places, and none is given up.
  have evolves := active.performAll_evolves settings plan distinct
  constructor
  · rw [before, same]
    exact evolves.toSettles
  · simp
  · rw [same, evolves.names_eq]
    exact distinct

/-- Ending demos is sound, as it takes nothing but orders. -/
theorem stopDemo_sound (settings : Settings) (distinct : (names supervisor.endpoints).Nodup) :
    Turn.Sound supervisor (supervisor.stopDemo settings) := by
  -- The recorded server is no part of what endpoints hold.
  obtain ⟨school, active, demoServer, created⟩ := supervisor
  cases active with
  | none => exact idle_sound distinct rfl
  | some room => exact performAll_sound settings _ distinct rfl rfl

/-- Ending demos is sound, whether or not there is one. -/
theorem stopDemoIfAny_sound (settings : Settings) (distinct : (names supervisor.endpoints).Nodup) :
    Turn.Sound supervisor (supervisor.stopDemoIfAny settings) := by
  -- With no demo to end, the turn does nothing.
  unfold stopDemoIfAny
  split
  · exact stopDemo_sound settings distinct
  · exact idle_sound distinct rfl

/-- Starting a demo is sound, whether or not its server is there. -/
theorem startDemo_sound (settings : Settings) (roster : Roster) (server : String)
    (fullscreen : Bool) (distinct : (names supervisor.endpoints).Nodup) :
    Turn.Sound supervisor (supervisor.startDemo settings roster server fullscreen).2.1 := by
  -- The demo before is ended in any case.
  have stopped := stopDemoIfAny_sound settings distinct
  unfold startDemo
  generalize supervisor.stopDemoIfAny settings = ended at stopped
  obtain ⟨⟨school, active, demoServer, created⟩, trace, released⟩ := ended
  cases active with
  | none => exact stopped
  | some room =>
    cases found : room.endpoint? server with
    | none => simpa [found] using stopped
    | some host =>
      -- The demo is started with the room as it is after the last one ended.
      let plan := Room.startPlan host (Room.seated roster (room.audience server)).1 fullscreen
      have evolves := room.performAll_evolves settings plan stopped.distinct
      simp only [found, Option.bind_eq_bind, Option.bind_some, Option.pure_def]
      refine ⟨stopped.settles.andThen evolves.toSettles, stopped.released, ?_⟩
      exact evolves.names_eq ▸ stopped.distinct

end Supervisor

end ComputerRoom
