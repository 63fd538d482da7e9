import ComputerRoom.Proofs.Simulation.Settlement
import ComputerRoom.Simulation.WorldStep

/-! Whatever happens to the surroundings of endpoints, their accounts are settled. -/

namespace ComputerRoom

/-- A scene that a world and some endpoints come to, with every effect on the way recorded. -/
structure World.LeadsTo (world : World) (endpoints : List Endpoint) (scene : Scene) : Prop where
  evolves : Evolves endpoints scene.trace scene.endpoints
  records : world.agents.Records scene.trace scene.world.agents

/-- The scene of a passage of time at present. -/
def Passage.scene (passage : Passage) : Scene :=
  ⟨passage.world, passage.endpoints, passage.past.reverse.flatten⟩

namespace World

variable {world : World} {endpoints : List Endpoint} {scene : Scene}

/-- A world in which nothing is done to any agent stays where it is. -/
theorem leadsTo_still (endpoints : List Endpoint) {after : World}
    (same : after.agents = world.agents) : world.LeadsTo endpoints ⟨after, endpoints, []⟩ :=
  ⟨.still endpoints, same ▸ .still world.agents⟩

/-- An endpoint reacts beside others that come to a scene. -/
theorem LeadsTo.cons {endpoint : Endpoint} {reaction : Reaction}
    (moves : endpoint.link.Moves reaction.effects reaction.endpoint.link)
    (rest : (world.observe reaction.trace).LeadsTo endpoints scene) :
    world.LeadsTo (endpoint :: endpoints) { scene with
      endpoints := reaction.endpoint :: scene.endpoints
      trace := reaction.trace ++ scene.trace } :=
  ⟨.append (.of_moves moves) rest.evolves, .andThen (Agents.records_observe _ _) rest.records⟩

/-- Checks at a moment settle what they do. -/
theorem check_leadsTo (world : World) (endpoints : List Endpoint) :
    world.LeadsTo endpoints (world.check endpoints) := by
  -- Each endpoint is checked beside the rest, or passed over.
  induction endpoints generalizing world with
  | nil => exact leadsTo_still [] rfl
  | cons endpoint rest ih =>
    refine LeadsTo.cons ?_ (ih _)
    split
    · exact Endpoint.update_moves world.settings world.now endpoint
    · exact .still endpoint.link

/-- Time that goes on settles the checks that it makes. -/
theorem advance_leadsTo {passage : Passage} (moment : Nat)
    (before : world.LeadsTo endpoints passage.scene) :
    world.LeadsTo endpoints (advance passage moment).scene := by
  -- The checks of the moment follow everything that was done before.
  obtain ⟨evolves, records⟩ := check_leadsTo { passage.world with now := moment } passage.endpoints
  have evolved := before.evolves.andThen evolves
  have recorded := before.records.andThen records
  constructor
  · simpa [advance, Passage.scene] using evolved
  · simpa [advance, Passage.scene] using recorded

/-- Time that passes settles every check on the way. -/
theorem sleep_leadsTo (world : World) (duration : Nat) (endpoints : List Endpoint) :
    world.LeadsTo endpoints (world.sleep duration endpoints) := by
  -- The scene of the passage is kept in balance from one moment to the next.
  have passed : ∀ (moments : List Nat) (passage : Passage),
      world.LeadsTo endpoints passage.scene →
        world.LeadsTo endpoints (moments.foldl advance passage).scene := by
    intro moments
    induction moments with
    | nil => exact fun _ before => before
    | cons moment later ih => exact fun _ before => ih _ (advance_leadsTo moment before)
  obtain ⟨evolves, records⟩ := passed _ ⟨world, endpoints, []⟩ (leadsTo_still endpoints rfl)
  exact ⟨evolves, records⟩

/-- An event that is brought to its endpoint settles what comes of it. -/
theorem deliver_leadsTo (world : World) (session : SessionId) (event : Signal)
    (endpoints : List Endpoint) :
    world.LeadsTo endpoints (world.deliver session event endpoints) := by
  -- One endpoint takes the event beside the others, or nobody does.
  induction endpoints with
  | nil => exact leadsTo_still [] rfl
  | cons endpoint rest ih =>
    unfold deliver
    split
    · have taken := Endpoint.supervised_moves world.settings world.now world.roster session event
        endpoint
      rw [Endpoint.operate_supervised] at taken
      have reached := (Evolves.of_moves taken).append (.still rest)
      simp only [List.append_nil] at reached
      exact ⟨reached, Agents.records_observe _ _⟩
    · obtain ⟨evolves, records⟩ := ih
      exact ⟨.append (.still [endpoint]) evolves, records⟩

/-- An event that an agent reports settles what comes of it. -/
theorem emit_leadsTo (world : World) (host : String) (event : Signal) (endpoints : List Endpoint) :
    world.LeadsTo endpoints (world.emit host event endpoints).2 := by
  -- An agent that nobody connected to has nobody to report to.
  unfold emit
  split
  · exact leadsTo_still endpoints rfl
  · exact deliver_leadsTo world _ event endpoints

/-- Every step on the surroundings settles what comes of it. -/
theorem take_leadsTo (world : World) (endpoints : List Endpoint) (step : WorldStep) :
    world.LeadsTo endpoints (world.take endpoints step).2 := by
  -- Pictures and logs are no accounts, and most other steps do not touch agents at all.
  cases step with
  | sleep duration => exact sleep_leadsTo world duration endpoints
  | emit host event => exact emit_leadsTo world host event endpoints
  | setImage host octets =>
    exact ⟨.still endpoints, Agents.records_modify world.agents host (by simp)⟩
  | clearCommands host =>
    exact ⟨.still endpoints, Agents.records_modify world.agents host (by simp)⟩
  | change | userQueries | obstructWaking | agents => exact leadsTo_still endpoints rfl

end World

end ComputerRoom
