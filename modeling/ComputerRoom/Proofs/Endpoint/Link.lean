import ComputerRoom.Endpoint.Effect

/-! What an endpoint holds of its link, and the few moves that ever change it. -/

namespace ComputerRoom

namespace Effect

/-- Whether an effect opens a transport. -/
@[simp] def opens : Effect → Bool
  | .opened _ _ => true
  | _ => false

/-- Whether an effect stops a transport that never carried a session. -/
@[simp] def stops : Effect → Bool
  | .transportStopped => true
  | _ => false

/-- Whether an effect layers a session on a transport. -/
@[simp] def joins : Effect → Bool
  | .sessionOpened => true
  | _ => false

/-- Whether an effect closes a session. -/
@[simp] def hangsUp : Effect → Bool
  | .sessionClosed => true
  | _ => false

/-- Whether an effect lets go of a transport, with or without a session on it. -/
@[simp] def releases (effect : Effect) : Bool :=
  effect.stops || effect.hangsUp

end Effect

/-- Whom an endpoint is linked to, and how. -/
structure Link where
  serial : Nat
  machine : Machine
  address : Address
  connects : Nat
  channel : Channel
  state : Connection

/-- The link of an endpoint at present. -/
def Endpoint.link (endpoint : Endpoint) : Link :=
  ⟨endpoint.serial, endpoint.machine, endpoint.address, endpoint.connects, endpoint.channel,
    endpoint.state.current⟩

namespace Link

/-- Whose link it is: the number of the endpoint, its machine, and the address in use. -/
def owner (link : Link) : Nat × Machine × Address :=
  (link.serial, link.machine, link.address)

/-- The session that the link was opened for last. -/
def session (link : Link) : SessionId :=
  ⟨link.serial, link.connects⟩

/-- How many transports are held over the link: one while it is open. -/
def transports (link : Link) : Nat :=
  if link.channel = .closed then 0 else 1

/-- One transport is held at most. -/
theorem transports_le (link : Link) : link.transports ≤ 1 := by
  -- The count is one or zero, whatever the channel.
  unfold transports
  split <;> omega

/-- Nothing is held over a closed link, and over no other. -/
theorem transports_eq_zero {link : Link} : link.transports = 0 ↔ link.channel = .closed := by
  -- The count is defined by just this choice.
  unfold transports
  split <;> simp_all

/-- How many sessions are held over the link: one while a session is layered on the transport. -/
def sessions (link : Link) : Nat :=
  if link.channel = .session then 1 else 0

/-- An effect that leaves the link alone: a command over a session, or any notice but readiness. -/
def Talk (channel : Channel) : Effect → Prop
  | .sent _ => channel = .session
  | .published (.connected _) => False
  | .published _ => True
  | _ => False

/-- The moves of a link, each with the effects that go with it, and sequences of moves. -/
inductive Moves : Link → List Effect → Link → Prop where
  | talk (link : Link) {effects : List Effect}
      (talk : ∀ effect ∈ effects, Talk link.channel effect) : Moves link effects link
  | andThen {first second third : Link} {early late : List Effect}
      (before : Moves first early second) (after : Moves second late third) :
      Moves first (early ++ late) third
  | opened (link : Link) (request : TransportRequest) (closed : link.channel = .closed) :
      Moves link [.opened ⟨link.serial, link.connects + 1⟩ request]
        { link with channel := .transport, connects := link.connects + 1 }
  | joined (link : Link) (bare : link.channel = .transport) :
      Moves link [.sessionOpened] { link with channel := .session, state := .connected }
  | readied (link : Link) (name : String) (held : link.channel = .session)
      (unready : link.state ≠ .ready) :
      Moves link [.published (.connected name)] { link with state := .ready }
  | fell (link : Link) {state : Connection} (down : state.isUp = false) :
      Moves link [] { link with state }
  | stopped (link : Link) (bare : link.channel = .transport) :
      Moves link [.transportStopped] { link with channel := .closed, state := .disconnected }
  | hungUp (link : Link) (held : link.channel = .session) :
      Moves link [.sessionClosed] { link with channel := .closed, state := .disconnected }

namespace Moves

variable {before after : Link} {effects : List Effect}

/-- A link that nothing happens to stays as it is. -/
theorem still (link : Link) : Moves link [] link :=
  -- Saying nothing is a special case of talk.
  .talk link (by simp)

/-- No move changes whose link it is. -/
theorem owner_eq (moves : Moves before effects after) : after.owner = before.owner := by
  -- Every single move writes other parts of the link only.
  induction moves with
  | andThen _ _ first second => exact second.trans first
  | _ => rfl

/-- No move changes the number of the endpoint that is linked. -/
theorem serial_eq (moves : Moves before effects after) : after.serial = before.serial :=
  congrArg (·.1) moves.owner_eq

/-- No move changes which machine is linked. -/
theorem machine_eq (moves : Moves before effects after) : after.machine = before.machine :=
  congrArg (·.2.1) moves.owner_eq

/-- No move changes the address that the link goes to. -/
theorem address_eq (moves : Moves before effects after) : after.address = before.address :=
  congrArg (·.2.2) moves.owner_eq

/-- Talk opens nothing and lets go of nothing. -/
theorem countP_talk {channel : Channel} (talk : ∀ effect ∈ effects, Talk channel effect) :
    effects.countP (·.opens) = 0 ∧ effects.countP (·.stops) = 0 ∧
      effects.countP (·.joins) = 0 ∧ effects.countP (·.hangsUp) = 0 := by
  -- Whatever is talked about, it is a command or a notice.
  have silent : ∀ kind : Effect → Bool, (∀ effect, Talk channel effect → kind effect = false) →
      effects.countP kind = 0 := by
    intro kind other
    refine List.countP_eq_zero.mpr ?_
    intro effect member
    simp [other effect (talk effect member)]
  refine ⟨silent _ ?_, silent _ ?_, silent _ ?_, silent _ ?_⟩
  -- Neither is of any of the four kinds.
  all_goals
    intro effect said
    cases effect with
    | sent | published => rfl
    | _ => exact said.elim

/-- A link counts every opening. -/
theorem connects_eq (moves : Moves before effects after) :
    after.connects = before.connects + effects.countP (·.opens) := by
  -- Only an opening writes the counter, and it is the only effect that is counted.
  induction moves with
  | talk link talk => rw [(countP_talk talk).1, Nat.add_zero]
  | andThen _ _ first second =>
    rw [List.countP_append]
    omega
  | _ => rfl

/-- Every transport that was held or opened is let go of once, or is held still. -/
theorem transports_eq (moves : Moves before effects after) :
    before.transports + effects.countP (·.opens) =
      after.transports + effects.countP (·.stops) + effects.countP (·.hangsUp) := by
  -- Each move changes what is held by just what it opens or lets go of.
  induction moves with
  | talk link talk =>
    obtain ⟨opened, stopped, _, hungUp⟩ := countP_talk talk
    omega
  | andThen _ _ first second =>
    simp only [List.countP_append]
    omega
  | opened link request closed => simp [transports, closed]
  | joined link bare => simp [transports, bare]
  | readied link name held => simp [transports]
  | fell => rfl
  | stopped link bare => simp [transports, bare]
  | hungUp link held => simp [transports, held]

/-- Every session that was held or opened is closed once, or is held still. -/
theorem sessions_eq (moves : Moves before effects after) :
    before.sessions + effects.countP (·.joins) =
      after.sessions + effects.countP (·.hangsUp) := by
  -- Each move changes what is held by just what it opens or lets go of.
  induction moves with
  | talk link talk =>
    obtain ⟨_, _, joined, hungUp⟩ := countP_talk talk
    omega
  | andThen _ _ first second =>
    simp only [List.countP_append]
    omega
  | opened link request closed => simp [sessions, closed]
  | joined link bare => simp [sessions, bare]
  | readied link name held => simp [sessions]
  | fell => rfl
  | stopped link bare => simp [sessions, bare]
  | hungUp link held => simp [sessions, held]

/-- A link opens its transports under sessions of its own, numbered on from where it stands. -/
theorem opened_session {session : SessionId} {request : TransportRequest} {later : List Effect}
    (moves : Moves before effects after) (opening : effects = .opened session request :: later) :
    session = ⟨before.serial, before.connects + 1⟩ := by
  -- The opening is the first effect, so nothing was opened before it.
  induction moves generalizing later with
  | talk link talk =>
    have said := talk (.opened session request) (by simp [opening])
    exact said.elim
  | @andThen first second third early late before after ih ih' =>
    cases early with
    | nil =>
      -- The first part did nothing to the outside, so it opened nothing either.
      have unopened := before.connects_eq
      rw [ih' opening, before.serial_eq, unopened]
      rfl
    | cons effect rest =>
      -- The opening stands at the head of the first part already.
      simp only [List.cons_append, List.cons.injEq] at opening
      exact ih (congrArg (· :: rest) opening.1)
  | opened link request closed =>
    simp only [List.cons.injEq, Effect.opened.injEq] at opening
    exact opening.1.1.symm
  | _ => simp at opening

/-- A move with one effect at most is cut on one of its sides. -/
theorem split_short (moves : Moves before effects after) {early late : List Effect}
    (short : effects.length ≤ 1) (cut : effects = early ++ late) :
    ∃ middle, Moves before early middle ∧ Moves middle late after := by
  -- One side of the cut is empty, and nothing has to move there.
  cases early with
  | nil =>
    rw [List.nil_append] at cut
    exact ⟨before, .still before, cut ▸ moves⟩
  | cons effect rest =>
    have none : late = [] := by
      rw [cut, List.length_append, List.length_cons] at short
      exact List.eq_nil_of_length_eq_zero (by omega)
    rw [none, List.append_nil] at cut
    exact ⟨after, cut ▸ moves, none ▸ .still after⟩

/-- Moves can be cut wherever their effects can. -/
theorem split (moves : Moves before effects after) {early late : List Effect}
    (cut : effects = early ++ late) :
    ∃ middle, Moves before early middle ∧ Moves middle late after := by
  -- Talk can be cut anywhere, and a sequence of moves within its first or its second part.
  induction moves generalizing early late with
  | talk link talk =>
    refine ⟨link, .talk link ?_, .talk link ?_⟩
    · intro effect member
      exact talk effect (cut ▸ List.mem_append_left late member)
    · intro effect member
      exact talk effect (cut ▸ List.mem_append_right early member)
  | andThen before after ih ih' =>
    rcases List.append_eq_append_iff.mp cut with ⟨rest, within, last⟩ | ⟨rest, first, within⟩
    · obtain ⟨middle, start, finish⟩ := ih' last
      exact ⟨middle, within ▸ .andThen before start, finish⟩
    · obtain ⟨middle, start, finish⟩ := ih first
      exact ⟨middle, start, within ▸ .andThen finish after⟩
  | opened link request closed => exact (opened link request closed).split_short (by simp) cut
  | joined link bare => exact (joined link bare).split_short (by simp) cut
  | readied link name held unready =>
    exact (readied link name held unready).split_short (by simp) cut
  | fell link down => exact (fell link down).split_short (by simp) cut
  | stopped link bare => exact (stopped link bare).split_short (by simp) cut
  | hungUp link held => exact (hungUp link held).split_short (by simp) cut

/-- After a transport was opened under a session, the link holds it and goes on from there. -/
theorem since_opened {past since : List Effect} {session : SessionId} {request : TransportRequest}
    (moves : Moves before (past ++ .opened session request :: since) after) :
    ∃ opened : Link, opened.session = session ∧ opened.transports = 1 ∧
      Moves opened since after := by
  -- The moves are cut right before the opening and right after it.
  obtain ⟨idle, _, later⟩ := moves.split rfl
  obtain ⟨opened, opening, rest⟩ := @split _ _ _ later [.opened session request] since rfl
  have named := opening.opened_session rfl
  have counted := opening.connects_eq
  -- One transport is held at most, so none was held before this one.
  have held : idle.transports + 1 = opened.transports := by simpa using opening.transports_eq
  have most := opened.transports_le
  refine ⟨opened, ?_, by omega, rest⟩
  rw [named, Link.session, opening.serial_eq, counted]
  rfl

end Moves

end Link

end ComputerRoom
