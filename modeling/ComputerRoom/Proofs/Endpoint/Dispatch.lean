import ComputerRoom.Proofs.Endpoint.Moves
import ComputerRoom.Proofs.Simulation.Agent

/-! Orders are carried out exactly when the endpoint is ready, and then over a session. -/

namespace ComputerRoom

namespace Link

/-- A link that is up is held by a session, whatever went before. -/
def UpOverSession (link : Link) : Prop :=
  link.state.isUp = true → link.channel = .session

/-- No move leaves a link up without a session. -/
theorem Moves.upOverSession {before after : Link} {effects : List Effect}
    (moves : Moves before effects after) (sound : before.UpOverSession) :
    after.UpOverSession := by
  -- A link comes up only where a session is joined or held, and releasing it takes it down.
  induction moves with
  | talk => exact sound
  | andThen _ _ first second => exact second (first sound)
  | opened link request closed =>
    intro up
    have held := sound up
    rw [closed] at held
    contradiction
  | joined => exact fun _ => rfl
  | readied link name held => exact fun _ => held
  | fell link down =>
    intro up
    rw [down] at up
    contradiction
  | stopped | hungUp =>
    intro up
    simp [Connection.isUp] at up

end Link

namespace Endpoint

variable {settings : Settings} {endpoint : Endpoint}

/-- An endpoint that is ready is up. -/
theorem isUp_of_ready (ready : endpoint.state.current = .ready) :
    endpoint.state.current.isUp = true := by
  rw [ready]
  rfl

/-- From its creation on, an endpoint is up only over a session. -/
theorem run_upOverSession {serial now : Nat} {machine : Machine} {prober : Option Prober}
    {fresh : Endpoint} (created : create serial now machine prober = .ok fresh)
    (operations : List Operation) :
    (fresh.run settings operations).endpoint.link.UpOverSession := by
  -- An endpoint starts disconnected, and every run moves its link lawfully.
  obtain ⟨address, _, rfl⟩ := create_eq_ok_iff.mp created
  have start : (idle serial now machine address).link.UpOverSession := by
    intro up
    simp [idle, Connection.isUp, Tracked.start] at up
  exact (run_moves settings _ operations).upOverSession start

/-- An order to an endpoint that is ready over a session is sent as its script. -/
theorem perform_of_ready (order : Order) (ready : endpoint.state.current = .ready)
    (held : endpoint.channel = .session) :
    let script := order.script settings endpoint.viewers
    endpoint.perform settings order =
      (.sent, ⟨{ endpoint with viewers := script.viewers }, script.commands.map .sent⟩) := by
  -- Both conditions of the order are met, and the session to send over is still there.
  simp [perform, isReady, ready, held, send]

/-- An order to an endpoint that is not ready is passed over. -/
theorem perform_of_not_ready (order : Order) (unready : endpoint.state.current ≠ .ready) :
    endpoint.perform settings order = (.skipped, ⟨endpoint, []⟩) := by
  -- The first condition of the order fails already.
  simp [perform, isReady, unready]

end Endpoint

end ComputerRoom
