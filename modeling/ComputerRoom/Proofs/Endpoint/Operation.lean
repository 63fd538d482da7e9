import ComputerRoom.Simulation.EndpointStep

/-! Everything that can happen to an endpoint, as single operations and as whole runs of them. -/

namespace ComputerRoom

/-- One thing that happens to an endpoint, with the time and the roster it meets. -/
inductive Operation where
  | connect
  | start (now : Nat)
  | close
  /-- An event is brought to the endpoint itself. -/
  | event (now : Nat) (roster : Roster) (session : SessionId) (event : Signal)
  /-- An event is brought to the endpoint's supervision. -/
  | supervised (now : Nat) (roster : Roster) (session : SessionId) (event : Signal)
  | link (now : Nat) (state : LinkStatus)
  | identity (now : Nat) (roster : Roster) (username homeFolder : String)
  | flags (mask : FlagMask)
  | update (now : Nat)
  | poll
  | perform (order : Order)

/-- An operation together with the endpoint it found and the reaction it caused. -/
structure Episode where
  before : Endpoint
  operation : Operation
  reaction : Reaction

namespace Episode

/-- Everything that some episodes did, in order. -/
def effects (episodes : List Episode) : List Effect :=
  episodes.flatMap (·.reaction.effects)

/-- What one episode did. -/
@[simp] theorem effects_singleton (episode : Episode) :
    effects [episode] = episode.reaction.effects :=
  List.flatMap_singleton ..

/-- No episodes did nothing. -/
@[simp] theorem effects_nil : effects [] = [] := rfl

/-- Effects come in the order of the episodes. -/
@[simp] theorem effects_append (early late : List Episode) :
    effects (early ++ late) = effects early ++ effects late :=
  List.flatMap_append

end Episode

namespace Endpoint

/-- An endpoint for a machine at an address, with nothing connected yet. -/
def idle (serial now : Nat) (machine : Machine) (address : Address) : Endpoint where
  serial := serial
  machine := machine
  address := address
  channel := .closed
  connects := 0
  supervision := .idle
  state := .start .disconnected
  username := .start none
  homeFolder := .start none
  flags := .start none
  teacher := .start false
  lastResponse := now
  viewers := []

/-- A machine gets an endpoint exactly if one of its addresses can be used. -/
theorem create_eq_ok_iff {serial now : Nat} {machine : Machine} {prober : Option Prober}
    {endpoint : Endpoint} :
    create serial now machine prober = .ok endpoint ↔
      ∃ address, machine.activeAddress? prober = some address ∧
        endpoint = idle serial now machine address := by
  -- Nothing but the choice of an address can fail.
  unfold create
  cases machine.activeAddress? prober with
  | none => simp
  | some address => simpa [idle] using eq_comm

/-- Whether a check at some time would find the connection dead and open it anew. -/
def isDead (settings : Settings) (now : Nat) (endpoint : Endpoint) : Bool :=
  endpoint.isReady && settings.liveTimeout < endpoint.silence now

/-- The reaction of an endpoint to one operation. -/
def operate (settings : Settings) (endpoint : Endpoint) : Operation → Reaction
  | .connect => endpoint.connect settings
  | .start now => ⟨endpoint.start now, []⟩
  | .close => endpoint.close
  | .event now roster session event =>
    (endpoint.handle settings now roster session event).reaction
  | .supervised now roster session event =>
    -- Supervision reads only the time, the settings and the roster of its surroundings.
    (World.supervise ⟨now, settings, roster, [], none⟩ session event endpoint).reaction
  | .link now state => endpoint.takeLink settings now state
  | .identity now roster username homeFolder =>
    (endpoint.identify now roster username homeFolder).reaction
  | .flags mask => (endpoint.takeFlags mask).2
  | .update now => endpoint.update settings now
  | .poll => ⟨endpoint.poll.2, []⟩
  | .perform order => (endpoint.perform settings order).2

/-- The endpoint after a run of operations, and everything that the run did, in order. -/
def run (settings : Settings) (endpoint : Endpoint) : List Operation → Reaction
  | [] => ⟨endpoint, []⟩
  | operation :: rest =>
    (endpoint.operate settings operation).andThen fun next => next.run settings rest

/-- The episodes that a run consists of. -/
def episodes (settings : Settings) (endpoint : Endpoint) : List Operation → List Episode
  | [] => []
  | operation :: rest =>
    let reaction := endpoint.operate settings operation
    ⟨endpoint, operation, reaction⟩ :: reaction.endpoint.episodes settings rest

variable {settings : Settings} {endpoint : Endpoint}

/-- An empty run leaves the endpoint as it is. -/
@[simp] theorem run_nil : endpoint.run settings [] = ⟨endpoint, []⟩ := rfl

/-- The first operation of a run hands its endpoint to the rest. -/
@[simp] theorem run_cons_endpoint (operation : Operation) (rest : List Operation) :
    (endpoint.run settings (operation :: rest)).endpoint =
      ((endpoint.operate settings operation).endpoint.run settings rest).endpoint := rfl

/-- The effects of the first operation come before those of the rest. -/
@[simp] theorem run_cons_effects (operation : Operation) (rest : List Operation) :
    (endpoint.run settings (operation :: rest)).effects =
      (endpoint.operate settings operation).effects ++
        ((endpoint.operate settings operation).endpoint.run settings rest).effects := rfl

/-- A run of one operation is that operation. -/
@[simp] theorem run_singleton (operation : Operation) :
    endpoint.run settings [operation] = endpoint.operate settings operation := by
  -- Nothing follows the operation, so its effects are all there are.
  simp [run, Reaction.andThen]

/-- A run can be cut into a first and a second part. -/
theorem run_append (first second : List Operation) :
    endpoint.run settings (first ++ second) =
      (endpoint.run settings first).andThen fun next => next.run settings second := by
  -- The first part hands on its endpoint, and effects are concatenated in order.
  induction first generalizing endpoint with
  | nil => simp [Reaction.andThen]
  | cons operation rest ih => simp [run, Reaction.andThen, ih]

/-- The last operation of a run is met by the endpoint that the others left. -/
theorem run_concat (earlier : List Operation) (last : Operation) :
    (endpoint.run settings (earlier ++ [last])).endpoint =
      ((endpoint.run settings earlier).endpoint.operate settings last).endpoint := by
  rw [run_append, Reaction.andThen, run_singleton]

/-- The episodes of the second part of a run start from where the first part led. -/
theorem episodes_append (first second : List Operation) :
    endpoint.episodes settings (first ++ second) = endpoint.episodes settings first ++
      (endpoint.run settings first).endpoint.episodes settings second := by
  induction first generalizing endpoint with
  | nil => rfl
  | cons operation rest ih => simp [episodes, ih]

/-- What a run did is what its episodes did, one after the other. -/
theorem run_effects_eq_episodes (operations : List Operation) :
    (endpoint.run settings operations).effects =
      Episode.effects (endpoint.episodes settings operations) := by
  -- Runs and episodes go through the same endpoints.
  induction operations generalizing endpoint with
  | nil => rfl
  | cons operation rest ih =>
    rw [run_cons_effects, ih]
    rfl

/-- Supervision reads nothing of its surroundings that an operation does not carry. -/
theorem operate_supervised (world : World) (session : SessionId) (event : Signal) :
    endpoint.operate world.settings (.supervised world.now world.roster session event) =
      (world.supervise session event endpoint).reaction := by
  -- Agents and obstacles to waking play no part in taking an event.
  simp only [operate, World.supervise]

section Supervised

variable (settings : Settings) (endpoint : Endpoint) (now : Nat) (roster : Roster)
  (session : SessionId) (event : Signal)

/-- Through supervision, an event does what it does when it is brought to the endpoint itself. -/
theorem operate_supervised_effects :
    (endpoint.operate settings (.supervised now roster session event)).effects =
      (endpoint.operate settings (.event now roster session event)).effects := by
  simp only [operate, World.supervise]
  split
  · exact List.append_nil _
  · rfl

/-- Whatever supervision is no part of, an event leaves as it does without supervision. -/
theorem operate_supervised_part {α : Type} (part : Endpoint → α)
    (aside : ∀ left : Endpoint, part left.stop = part left) :
    part (endpoint.operate settings (.supervised now roster session event)).endpoint =
      part (endpoint.operate settings (.event now roster session event)).endpoint := by
  -- All that an event can do besides is to end supervision.
  simp only [operate, World.supervise]
  split
  · exact aside _
  · rfl

end Supervised

/-- A first check right at the start of supervision is an operation of its own. -/
theorem startChecked_eq_run (settings : Settings) (now : Nat) (endpoint : Endpoint) :
    ∃ operations, endpoint.startChecked settings now = endpoint.run settings operations := by
  -- Supervision that was started before does nothing.
  unfold startChecked
  split
  · exact ⟨[.start now, .update now], by simp [run, operate, Reaction.andThen]⟩
  · exact ⟨[], rfl⟩

/-- Every step that can be taken on an endpoint is a run of operations. -/
theorem take_eq_run {Server : Type} (world : World) (locate : Server → Except Answer String)
    (endpoint : Endpoint) (step : EndpointStep Server) :
    ∃ operations,
      (endpoint.take world locate step).reaction = endpoint.run world.settings operations := by
  -- Steps that only look at the endpoint are empty runs, and most others are one operation.
  cases step with
  | connect => exact ⟨[.connect], by simp [take, EndpointTurn.ofReaction, operate]⟩
  | start => exact startChecked_eq_run world.settings world.now endpoint
  | launch =>
    obtain ⟨operations, started⟩ :=
      startChecked_eq_run world.settings world.now (endpoint.connect world.settings).endpoint
    exact ⟨.connect :: operations,
      by simp [take, EndpointTurn.ofReaction, run, operate, Reaction.andThen, started]⟩
  | close => exact ⟨[.close], by simp [take, EndpointTurn.ofReaction, operate]⟩
  | event event session =>
    exact ⟨[.event world.now world.roster (session.resolve endpoint) event],
      by simp [take, EndpointTurn.ofConsulted, operate]⟩
  | link state =>
    exact ⟨[.link world.now state], by simp [take, EndpointTurn.ofReaction, operate]⟩
  | identity username homeFolder =>
    exact ⟨[.identity world.now world.roster username homeFolder],
      by simp [take, EndpointTurn.ofConsulted, operate]⟩
  | update => exact ⟨[.update world.now], by simp [take, EndpointTurn.ofReaction, operate]⟩
  | flags mask =>
    exact ⟨[.flags mask], by simp [take, flagsStep, EndpointTurn.ofReaction, operate]⟩
  | relayFlags =>
    exact ⟨[.flags (world.agents.onHost endpoint.ip).mask],
      by simp [take, flagsStep, EndpointTurn.ofReaction, operate]⟩
  | poll => exact ⟨[.poll], by simp [take, EndpointTurn.quiet, operate]⟩
  | perform order =>
    exact ⟨[.perform order], by simp [take, performStep, EndpointTurn.ofReaction, operate]⟩
  | startDemoClient server fullscreen =>
    cases located : locate server with
    | error answer => exact ⟨[], by simp [take, located, EndpointTurn.quiet]⟩
    | ok ip =>
      exact ⟨[.perform (.startDemoClient ip fullscreen)],
        by simp [take, located, performStep, EndpointTurn.ofReaction, operate]⟩
  | wakeUp =>
    refine ⟨[], ?_⟩
    simp only [take, wakeUpStep, run_nil]
    split <;> rfl
  | isReady | hasTeacher | hidesScreen | flag | snapshot | describe | capture => exact ⟨[], rfl⟩

end Endpoint

end ComputerRoom
