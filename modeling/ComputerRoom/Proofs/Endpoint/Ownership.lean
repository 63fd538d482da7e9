import ComputerRoom.Proofs.Endpoint.Moves

/-! What an endpoint does to its link, in which order: each transport is let go of just once. -/

namespace ComputerRoom

namespace Channel

/-- What is held after an effect, if the effect is possible with what was held before. -/
def after? : Channel → Effect → Option Channel
  | .closed, .opened _ _ => some .transport
  | .transport, .transportStopped => some .closed
  | .transport, .sessionOpened => some .session
  | .session, .sent _ => some .session
  | .session, .sessionClosed => some .closed
  | channel, .published _ => some channel
  | _, _ => none

/-- What is held after some effects, if they are possible in their order. -/
def follow? (channel : Channel) (effects : List Effect) : Option Channel :=
  effects.foldlM after? channel

/-- Talk is possible, and changes nothing that is held. -/
theorem follow?_talk {channel : Channel} {effects : List Effect}
    (talk : ∀ effect ∈ effects, Link.Talk channel effect) :
    channel.follow? effects = some channel := by
  -- A command goes over the session, which it keeps, and a notice needs nothing.
  induction effects with
  | nil => rfl
  | cons effect rest ih =>
    obtain ⟨said, later⟩ := List.forall_mem_cons.mp talk
    have kept : channel.after? effect = some channel := by
      cases effect with
      | sent command =>
        rw [show channel = .session from said]
        rfl
      | published notice => cases channel <;> rfl
      | _ => exact said.elim
    rw [follow?, List.foldlM_cons, kept]
    exact ih later

end Channel

/-- The moves of a link take the channel from effect to effect to where it is in the end. -/
theorem Link.Moves.follow {before after : Link} {effects : List Effect}
    (moves : before.Moves effects after) : before.channel.follow? effects = some after.channel := by
  -- Every move states which channel it starts from, and that is the one its effect needs.
  induction moves with
  | talk link talk => exact Channel.follow?_talk talk
  | andThen _ _ first second =>
    rw [Channel.follow?, List.foldlM_append]
    exact (congrArg (· >>= _) first).trans second
  | opened link request closed =>
    rw [closed]
    rfl
  | joined link bare =>
    rw [bare]
    rfl
  | readied link name held =>
    rw [held]
    rfl
  | fell => rfl
  | stopped link bare =>
    rw [bare]
    rfl
  | hungUp link held =>
    rw [held]
    rfl

namespace Endpoint

variable (settings : Settings) (endpoint : Endpoint)

/-- Over any run, the channel of an endpoint goes from effect to effect to where it ends. -/
theorem run_follow (operations : List Operation) :
    endpoint.channel.follow? (endpoint.run settings operations).effects =
      some (endpoint.run settings operations).endpoint.channel :=
  (run_moves settings endpoint operations).follow

/-- Closing a closed link does nothing to the outside. -/
theorem close_effects_of_closed {endpoint : Endpoint} (closed : endpoint.channel = .closed) :
    endpoint.close.effects = [] := by
  have kept : endpoint.stop.channel = .closed :=
    (congrArg Link.channel endpoint.stop_link).trans closed
  simp [close, disconnect, release, kept, Reaction.andThen]

/-- However often an endpoint is closed again, nothing more is let go of. -/
theorem close_again (count : Nat) :
    (endpoint.close.endpoint.run settings (List.replicate count .close)).effects = [] := by
  -- Each time it is closed already, and each time it is left closed again.
  induction count generalizing endpoint with
  | zero => rfl
  | succ count ih =>
    rw [List.replicate_succ, run_cons_effects]
    exact List.append_eq_nil_iff.mpr
      ⟨close_effects_of_closed endpoint.close_channel, ih endpoint.close.endpoint⟩

end Endpoint

end ComputerRoom
