import ComputerRoom.Simulation.Report
import ComputerRoom.Simulation.WorldStep

/-! A simulation of one endpoint in its surroundings. -/

namespace ComputerRoom

/-- One endpoint, until it is dropped, in its surroundings. -/
structure Bench where
  world : World
  prober : Option Prober
  endpoint : Option Endpoint

/-- A step on a bench. -/
inductive BenchStep where
  | world (step : WorldStep)
  | endpoint (step : EndpointStep Machine)
  | drop

namespace Bench

/-- A bench with a new endpoint for a machine. -/
def new (settings : Settings) (roster : Roster) (machine : Machine) (prober : Option Prober) :
    Except EndpointFailure Bench := do
  let endpoint ← Endpoint.create 0 0 machine prober
  return ⟨.new settings roster, prober, some endpoint⟩

/-- The address at which the demo of a machine would be watched. -/
def locate (bench : Bench) (server : Machine) : Except Answer String :=
  match server.activeAddress? bench.prober with
  | some address => .ok address.ip
  | none => .error (.failedEndpoint (.missingAddress server.name))

/-- Drops the endpoint if it is still there. -/
def drop (bench : Bench) : Trace × Bench :=
  match bench.endpoint with
  | none => ([], bench)
  | some endpoint =>
    let trace := endpoint.drop.trace
    (trace, { bench with world := bench.world.observe trace, endpoint := none })

/-- Takes one step. -/
def take (bench : Bench) : BenchStep → Report × Bench
  | .world step =>
    let (answer, scene) := bench.world.take bench.endpoint.toList step
    (.new answer scene.trace [],
      { bench with world := scene.world, endpoint := scene.endpoints.head? })
  | .endpoint step =>
    match bench.endpoint with
    | none => (.new .absent [] [], bench)
    | some endpoint =>
      let turn := endpoint.take bench.world bench.locate step
      let trace := turn.reaction.trace
      (.new turn.answer trace turn.woken,
        { bench with
          world := { bench.world with roster := turn.roster }.observe trace
          endpoint := some turn.reaction.endpoint })
  | .drop =>
    let (trace, dropped) := bench.drop
    (.new .nothing trace [], dropped)

end Bench

end ComputerRoom
