import ComputerRoom.Directory.Change
import ComputerRoom.Simulation.Answer
import ComputerRoom.Simulation.World

/-! The steps that concern the surroundings of endpoints, whichever endpoints there are. -/

namespace ComputerRoom

/-- A step on the surroundings. -/
inductive WorldStep where
  | change (change : DirectoryChange)
  /-- How many user queries the directory has answered. -/
  | userQueries
  | sleep (duration : Nat)
  | emit (host : String) (event : Signal)
  | setImage (host : String) (octets : List UInt8)
  | clearCommands (host : String)
  | obstructWaking (obstacle : Option WakeFailure)
  | agents

namespace World

/-- Changes the directory. -/
def changeDirectory (world : World) (change : DirectoryChange) : World :=
  { world with roster := { world.roster with directory := world.roster.directory.apply change } }

/-- Takes a step on the surroundings of some endpoints. -/
def take (world : World) (endpoints : List Endpoint) : WorldStep → Answer × Scene
  | .change change => (.nothing, ⟨world.changeDirectory change, endpoints, []⟩)
  | .userQueries => (.count world.roster.directory.answered, ⟨world, endpoints, []⟩)
  | .sleep duration => (.nothing, world.sleep duration endpoints)
  | .emit host event =>
    let (connected, scene) := world.emit host event endpoints
    (.boolean connected, scene)
  | .setImage host octets =>
    let agents := world.agents.modify host fun agent => { agent with image := some octets }
    (.nothing, ⟨{ world with agents }, endpoints, []⟩)
  | .clearCommands host =>
    let agents := world.agents.modify host fun agent => { agent with received := [] }
    (.nothing, ⟨{ world with agents }, endpoints, []⟩)
  | .obstructWaking obstacle =>
    (.nothing, ⟨{ world with wakeObstacle := obstacle }, endpoints, []⟩)
  | .agents => (.agents world.agents, ⟨world, endpoints, []⟩)

end World

end ComputerRoom
