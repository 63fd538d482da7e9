import ComputerRoom.Proofs.Endpoint.Dispatch
import ComputerRoom.Proofs.Simulation.Lasting

/-!
Every endpoint that is live came about by lawful moves from one that was never connected, so what
all lawful moves keep holds of it at any time.
-/

namespace ComputerRoom

/-- A link that lawful moves lead to from one over which nothing was ever opened. -/
def Link.Lawful (link : Link) : Prop :=
  ∃ start effects, start.channel = .closed ∧ start.state = .disconnected ∧
    Moves start effects link

/-- Endpoints whose links are all lawful. -/
def AllLawful (endpoints : List Endpoint) : Prop :=
  ∀ endpoint ∈ endpoints, endpoint.link.Lawful

namespace Link.Lawful

/-- A lawful link goes on lawfully. -/
theorem moves {before after : Link} {effects : List Effect} (lawful : before.Lawful)
    (moves : Moves before effects after) : after.Lawful := by
  obtain ⟨start, early, closed, down, past⟩ := lawful
  exact ⟨start, early ++ effects, closed, down, past.andThen moves⟩

/-- A lawful link is up only over a session. -/
theorem upOverSession {link : Link} (lawful : link.Lawful) : link.UpOverSession := by
  obtain ⟨start, effects, _, down, past⟩ := lawful
  refine past.upOverSession ?_
  intro up
  simp [down, Connection.isUp] at up

end Link.Lawful

/-- An endpoint of a lawful link is ready only over a session. -/
theorem Endpoint.channel_of_ready {endpoint : Endpoint} (lawful : endpoint.link.Lawful)
    (ready : endpoint.isReady = true) : endpoint.channel = .session :=
  lawful.upOverSession (isUp_of_ready (by simpa [isReady] using ready))

/-- Links stay lawful whatever an endpoint does, and whoever is looked up for it. -/
theorem lasting_lawful (roster : Roster) (lookups : List String) :
    Lasting roster lookups fun endpoint => endpoint.link.Lawful where
  fresh _ _ _ _ := ⟨_, _, rfl, rfl, .still _⟩
  operate settings endpoint operation lawful _ :=
    lawful.moves (endpoint.operate_moves settings operation)

/-- A room as every classroom keeps it: names are distinct, and links lawful. -/
structure Room.Regular (room : Room) : Prop where
  distinct : (names room.endpoints).Nodup
  lawful : AllLawful room.endpoints

namespace Classroom

variable {room : Classroom}

/-- Every run of steps leaves the links of all live endpoints lawful. -/
theorem run_lawful (lawful : AllLawful room.live) (steps : List ClassroomStep) :
    AllLawful (room.run steps).live :=
  run_lasting lasting_lawful lawful steps

/-- The room that is active after any steps is as every classroom keeps its rooms. -/
theorem run_regular (settings : Settings) (roster : Roster) (prober : Option Prober)
    (steps : List ClassroomStep) {active : Room}
    (present : ((new settings roster prober).run steps).supervisor.room = some active) :
    active.Regular := by
  -- Names and links were right at the start, when there was no endpoint.
  have distinct := (run_accounted (new_accounted settings roster prober) steps).distinct
  have lawful := @run_lawful (new settings roster prober) (List.forall_mem_nil _) steps
  obtain ⟨inside, _⟩ := forall_mem_live.mp lawful
  simp only [Supervisor.endpoints, present] at distinct inside
  exact ⟨distinct, inside⟩

end Classroom

end ComputerRoom
