import ComputerRoom.Proofs.Endpoint.Link
import ComputerRoom.Proofs.Endpoint.Operation
import ComputerRoom.Proofs.Tracking

/-! Whatever an endpoint does, it moves its link lawfully. -/

namespace ComputerRoom

namespace Endpoint

open Link (Moves Talk)

/-- The channel of an endpoint's link. -/
@[simp] theorem link_channel (endpoint : Endpoint) : endpoint.link.channel = endpoint.channel := rfl

/-- The connection state of an endpoint's link. -/
@[simp] theorem link_state (endpoint : Endpoint) : endpoint.link.state = endpoint.state.current :=
  rfl

/-- The session of an endpoint's link. -/
@[simp] theorem link_session (endpoint : Endpoint) : endpoint.link.session = endpoint.session := rfl

/-- Forgetting the user leaves the link alone. -/
@[simp] theorem forgetUser_link (endpoint : Endpoint) : endpoint.forgetUser.link = endpoint.link :=
  rfl

/-- Ending supervision leaves the link alone. -/
@[simp] theorem stop_link (endpoint : Endpoint) : endpoint.stop.link = endpoint.link := by
  -- Only the supervision of an endpoint is written.
  unfold stop
  split <;> rfl

/-- Starting supervision leaves the link alone. -/
@[simp] theorem start_link (now : Nat) (endpoint : Endpoint) :
    (endpoint.start now).link = endpoint.link := by
  -- Only the supervision of an endpoint is written.
  unfold start
  split <;> rfl

/-- A reaction that only talks: the link stays as it is, and nothing is done to it. -/
structure Talks (endpoint : Endpoint) (reaction : Reaction) : Prop where
  link_eq : reaction.endpoint.link = endpoint.link
  talk : ∀ effect ∈ reaction.effects, Talk endpoint.channel effect

/-- Talk is one of the moves of a link. -/
theorem Talks.moves {endpoint : Endpoint} {reaction : Reaction} (talks : endpoint.Talks reaction) :
    Moves endpoint.link reaction.effects reaction.endpoint.link := by
  -- The link that talk leaves is the one that it found.
  rw [talks.link_eq]
  exact .talk endpoint.link talks.talk

/-- Doing nothing to the outside is talk as long as the link stays as it is. -/
theorem talks_silently {endpoint after : Endpoint} (same : after.link = endpoint.link) :
    endpoint.Talks ⟨after, []⟩ :=
  ⟨same, by simp⟩

/-- Sending leaves an endpoint as it is. -/
@[simp] theorem send_endpoint (endpoint : Endpoint) (commands : List Command) :
    (endpoint.send commands).endpoint = endpoint := by
  unfold send
  split <;> rfl

/-- Commands are talk: without a session none is sent. -/
theorem send_talks (endpoint : Endpoint) (commands : List Command) :
    endpoint.Talks (endpoint.send commands) := by
  -- Whether anything is sent is decided by the channel alone.
  unfold send
  split
  · rename_i held
    -- Every effect sends one of the commands, and there is a session to send it over.
    refine ⟨rfl, ?_⟩
    intro effect member
    obtain ⟨command, _, same⟩ := List.mem_map.mp member
    rw [← same]
    exact held
  · exact talks_silently rfl

/-- An answer about the user is talk: it asks for flags at most. -/
theorem takeIdentity_talks (now : Nat) (teaches : Bool) (username homeFolder : String)
    (endpoint : Endpoint) :
    endpoint.Talks (endpoint.takeIdentity now teaches username homeFolder) := by
  -- The cells that are written belong to the user, so only the effects are looked at.
  have asks : ∀ (informed : Endpoint) (asking : Bool), informed.link = endpoint.link →
      endpoint.Talks (if asking then informed.send [.requestFlags] else ⟨informed, []⟩) := by
    intro informed asking same
    cases asking with
    | false => exact talks_silently same
    | true =>
      obtain ⟨kept, talk⟩ := send_talks informed [.requestFlags]
      -- The session to ask over is the one that the endpoint had before.
      have held : informed.channel = endpoint.channel := congrArg Link.channel same
      exact ⟨kept.trans same, held ▸ talk⟩
  unfold takeIdentity
  by_cases same : (endpoint.username.current == nonEmpty? username) = true
  · simp only [if_pos same]
    exact asks _ _ rfl
  · simp only [if_neg same]
    obtain ⟨kept, talk⟩ := asks { endpoint with
      lastResponse := now
      username := endpoint.username.set (nonEmpty? username)
      homeFolder := endpoint.homeFolder.set (nonEmpty? homeFolder)
      teacher := endpoint.teacher.set teaches } (nonEmpty? username).isSome rfl
    refine ⟨kept, ?_⟩
    intro effect member
    -- The notice about the user comes after whatever was asked.
    rcases List.mem_append.mp member with asked | told
    · exact talk effect asked
    · rw [List.mem_singleton.mp told]
      trivial

/-- A report of flags is talk: it publishes flips. -/
theorem takeFlags_talks (mask : FlagMask) (endpoint : Endpoint) :
    endpoint.Talks (endpoint.takeFlags mask).2 := by
  -- The cell of the flags is no part of the link, and every effect tells of one flip.
  refine ⟨rfl, ?_⟩
  intro effect member
  obtain ⟨flip, _, same⟩ := List.mem_map.mp member
  rw [← same]
  trivial

/-- An order is talk: it sends commands only over a session. -/
theorem perform_talks (settings : Settings) (order : Order) (endpoint : Endpoint) :
    endpoint.Talks (endpoint.perform settings order).2 := by
  -- The viewers are no part of the link, so an order is as good as the sending of its commands.
  unfold perform
  split
  · let script := order.script settings endpoint.viewers
    obtain ⟨kept, talk⟩ := send_talks { endpoint with viewers := script.viewers } script.commands
    exact ⟨kept, talk⟩
  · exact talks_silently rfl

/-- Connecting over an open link does nothing. -/
theorem connect_of_open (settings : Settings) {endpoint : Endpoint}
    (held : endpoint.channel ≠ .closed) : endpoint.connect settings = ⟨endpoint, []⟩ := by
  -- Only a closed channel leads to the first branch.
  unfold connect
  split
  · contradiction
  · rfl

/-- Connecting over an open link is talk, as it does nothing. -/
theorem connect_talks (settings : Settings) {endpoint : Endpoint}
    (held : endpoint.channel ≠ .closed) : endpoint.Talks (endpoint.connect settings) := by
  rw [connect_of_open settings held]
  exact talks_silently rfl

/-- A check that finds no dead connection is talk. -/
theorem update_talks {settings : Settings} {now : Nat} {endpoint : Endpoint}
    (alive : endpoint.isDead settings now = false) :
    endpoint.Talks (endpoint.update settings now) := by
  -- A check that has anything to do asks over the session at most.
  unfold update
  split
  · exact talks_silently rfl
  · rename_i ready
    -- A ready endpoint that is not dead was heard of lately.
    have heard : ¬ settings.liveTimeout < endpoint.silence now := by simp_all [isDead]
    rw [if_neg heard]
    exact send_talks endpoint [.requestIdentity]

/-- Connecting opens a closed link and does nothing to an open one. -/
theorem connect_moves (settings : Settings) (endpoint : Endpoint) :
    Moves endpoint.link (endpoint.connect settings).effects
      (endpoint.connect settings).endpoint.link := by
  -- The channel decides between an opening and mere talk.
  by_cases closed : endpoint.channel = .closed
  · simp only [connect, closed]
    exact .opened endpoint.link _ closed
  · exact (connect_talks settings closed).moves

/-- Disconnecting leaves the link closed and disconnected. -/
@[simp] theorem disconnect_link (endpoint : Endpoint) :
    endpoint.disconnect.endpoint.link =
      { endpoint.link with channel := .closed, state := .disconnected } := by
  -- What is let go of depends on the channel, but where it ends does not.
  unfold disconnect release
  split <;> simp_all [Reaction.andThen, link, forgetUser]

/-- Disconnecting lets go of whatever is held and leaves the state disconnected. -/
theorem disconnect_moves (endpoint : Endpoint) :
    Moves endpoint.link endpoint.disconnect.effects endpoint.disconnect.endpoint.link := by
  -- The state falls in every case; only an open link has something to let go of.
  rw [disconnect_link]
  cases held : endpoint.channel with
  | closed =>
    have fall : Moves endpoint.link [] { endpoint.link with state := .disconnected } := .fell _ rfl
    simpa [disconnect, release, held, Reaction.andThen, link] using fall
  | transport =>
    simpa [disconnect, release, held, Reaction.andThen] using Moves.stopped endpoint.link held
  | session =>
    simpa [disconnect, release, held, Reaction.andThen] using Moves.hungUp endpoint.link held

/-- Closing lets go of whatever is held. -/
theorem close_moves (endpoint : Endpoint) :
    Moves endpoint.link endpoint.close.effects endpoint.close.endpoint.link :=
  stop_link endpoint ▸ disconnect_moves endpoint.stop

/-- Closing leaves the link closed. -/
@[simp] theorem close_channel (endpoint : Endpoint) : endpoint.close.endpoint.channel = .closed :=
  congrArg Link.channel (disconnect_link endpoint.stop)

/-- Launching opens the link and starts supervision, which leaves the link alone. -/
theorem launch_moves (settings : Settings) (now : Nat) (endpoint : Endpoint) :
    Moves endpoint.link (endpoint.launch settings now).effects
      (endpoint.launch settings now).endpoint.link := by
  -- Supervision starts after the link was opened.
  have connected := connect_moves settings endpoint
  rw [← start_link now] at connected
  simpa [launch, Reaction.andThen] using connected

/-- Where a link comes up for the first time, a session is layered on it, and asks if it can. -/
theorem takeLinkUp_of_transport (settings : Settings) (now : Nat) {endpoint : Endpoint}
    (bare : endpoint.channel = .transport) :
    (endpoint.takeLinkUp settings now).endpoint.link =
        { endpoint.link with channel := .session, state := .connected } ∧
      (endpoint.takeLinkUp settings now).effects = .sessionOpened ::
        if settings.outlastsClock now then [] else [.sent .requestIdentity] := by
  -- The end of the clock decides only about what comes after the session.
  simp only [takeLinkUp, bare]
  split <;> simp [link]

/-- Where the link of a session comes up again it is ready, which is told if it was not before. -/
theorem takeLinkUp_of_session (settings : Settings) (now : Nat) {endpoint : Endpoint}
    (held : endpoint.channel = .session) :
    (endpoint.takeLinkUp settings now).endpoint.link = { endpoint.link with state := .ready } ∧
      (endpoint.takeLinkUp settings now).effects =
        if endpoint.isReady then [] else [.published (.connected endpoint.name)] := by
  simp only [takeLinkUp, held]
  split
  · -- A link that is ready already is left as it is.
    rename_i ready
    have still : endpoint.state.current = .ready := by simpa [isReady] using ready
    simp [link, still]
  · simp [link, held]

/-- A link that comes up is joined by a session first and is ready the next time. -/
theorem takeLinkUp_moves (settings : Settings) (now : Nat) (endpoint : Endpoint) :
    Moves endpoint.link (endpoint.takeLinkUp settings now).effects
      (endpoint.takeLinkUp settings now).endpoint.link := by
  -- What coming up means is decided by what is held already.
  cases held : endpoint.channel with
  | closed =>
    simp only [takeLinkUp, held]
    exact .still _
  | transport =>
    obtain ⟨joined, does⟩ := takeLinkUp_of_transport settings now held
    rw [joined, does]
    have opens := Moves.joined endpoint.link held
    split
    · exact opens
    · -- The session opens first, and only then is anything asked over it.
      exact .andThen opens (.talk _ (by simp [Talk]))
  | session =>
    obtain ⟨readied, does⟩ := takeLinkUp_of_session settings now held
    rw [readied, does]
    split
    · rename_i ready
      have still : endpoint.link.state = .ready := by simpa [isReady] using ready
      rw [← still]
      exact .still _
    · rename_i unready
      have below : endpoint.link.state ≠ .ready := by simpa [isReady] using unready
      exact .readied endpoint.link endpoint.name held below

/-- A link that reports anything but being connected is down. -/
theorem ofLink_isUp {status : LinkStatus} (down : status ≠ .connected) :
    (Connection.ofLink status).isUp = false := by
  -- Only the report of being connected stands for a state in which a link is up.
  match status with
  | .connected => contradiction
  | .disconnected | .failed .connection | .failed .authentication | .failed .unreachable => rfl

/-- A report other than that of being connected takes the link down. -/
theorem takeLink_of_ne_connected (settings : Settings) (now : Nat) {status : LinkStatus}
    (endpoint : Endpoint) (down : status ≠ .connected) :
    endpoint.takeLink settings now status = ⟨endpoint.takeLinkDown (.ofLink status), []⟩ := by
  -- Only the report of being connected stands for a state in which a link is up.
  match status with
  | .connected => contradiction
  | .disconnected | .failed .connection | .failed .authentication | .failed .unreachable => rfl

/-- A link that goes down keeps all but its state. -/
@[simp] theorem takeLinkDown_link (state : Connection) (endpoint : Endpoint) :
    (endpoint.takeLinkDown state).link = { endpoint.link with state } := by
  -- Only a link that was up loses its user, which is no part of the link.
  unfold takeLinkDown
  split <;> simp [link, forgetUser]

/-- A report on the link brings it up one step, or takes it down. -/
theorem takeLink_moves (settings : Settings) (now : Nat) (status : LinkStatus)
    (endpoint : Endpoint) :
    Moves endpoint.link (endpoint.takeLink settings now status).effects
      (endpoint.takeLink settings now status).endpoint.link := by
  -- One report alone brings a link up; every other one stands for a state that is down.
  by_cases up : status = .connected
  · rw [up]
    exact takeLinkUp_moves settings now endpoint
  · rw [takeLink_of_ne_connected settings now endpoint up, takeLinkDown_link]
    exact .fell endpoint.link (ofLink_isUp up)

/-- An event is dropped, or taken as what it reports. -/
theorem handle_moves (settings : Settings) (now : Nat) (roster : Roster) (session : SessionId)
    (event : Signal) (endpoint : Endpoint) :
    Moves endpoint.link (endpoint.handle settings now roster session event).reaction.effects
      (endpoint.handle settings now roster session event).reaction.endpoint.link := by
  -- An event of another session is dropped, and each kind of event is taken in its own way.
  unfold handle
  split
  · exact .still _
  · cases event with
    | state state => exact takeLink_moves settings now state endpoint
    | identity username homeFolder =>
      exact (takeIdentity_talks now _ username homeFolder endpoint).moves
    | flags mask => exact (takeFlags_talks mask endpoint).moves

/-- Supervision moves the link as the endpoint does by itself. -/
theorem supervised_moves (settings : Settings) (now : Nat) (roster : Roster) (session : SessionId)
    (event : Signal) (endpoint : Endpoint) :
    Moves endpoint.link
      (endpoint.operate settings (.supervised now roster session event)).effects
      (endpoint.operate settings (.supervised now roster session event)).endpoint.link := by
  -- Supervision is no part of the link.
  rw [operate_supervised_effects, operate_supervised_part _ _ _ _ _ _ link stop_link]
  exact handle_moves settings now roster session event endpoint

/-- A check that finds the connection dead lets go of the link and opens it anew. -/
theorem update_of_isDead {settings : Settings} {now : Nat} {endpoint : Endpoint}
    (dead : endpoint.isDead settings now = true) :
    endpoint.update settings now = endpoint.disconnect.andThen fun closed =>
      { closed with lastResponse := now + settings.liveTimeout }.connect settings := by
  -- A dead connection is a ready one that was silent for too long.
  simp only [isDead, Bool.and_eq_true, decide_eq_true_eq] at dead
  unfold update
  rw [if_neg (by simp [dead.1]), if_pos dead.2]

/-- A check asks who is logged in, or lets go of a dead link and opens it anew. -/
theorem update_moves (settings : Settings) (now : Nat) (endpoint : Endpoint) :
    Moves endpoint.link (endpoint.update settings now).effects
      (endpoint.update settings now).endpoint.link := by
  cases dead : endpoint.isDead settings now with
  | false => exact (update_talks dead).moves
  | true =>
    -- The link is let go of first, and is opened anew from where it was left.
    rw [update_of_isDead dead]
    let closed := endpoint.disconnect.endpoint
    let waiting := { closed with lastResponse := now + settings.liveTimeout }
    exact .andThen (disconnect_moves endpoint) (connect_moves settings waiting)

/-- Every operation moves the link lawfully. -/
theorem operate_moves (settings : Settings) (endpoint : Endpoint) (operation : Operation) :
    Moves endpoint.link (endpoint.operate settings operation).effects
      (endpoint.operate settings operation).endpoint.link := by
  -- What does not connect, close, report on the link or find it dead is talk.
  cases operation with
  | connect => exact connect_moves settings endpoint
  | start now => exact start_link now endpoint ▸ .still _
  | close => exact close_moves endpoint
  | event now roster session event => exact handle_moves settings now roster session event endpoint
  | supervised now roster session event =>
    exact supervised_moves settings now roster session event endpoint
  | link now state => exact takeLink_moves settings now state endpoint
  | identity now roster username homeFolder =>
    exact (takeIdentity_talks now _ username homeFolder endpoint).moves
  | flags mask => exact (takeFlags_talks mask endpoint).moves
  | update now => exact update_moves settings now endpoint
  | poll => exact .still _
  | perform order => exact (perform_talks settings order endpoint).moves

/-- Every run moves the link lawfully. -/
theorem run_moves (settings : Settings) (endpoint : Endpoint) (operations : List Operation) :
    Moves endpoint.link (endpoint.run settings operations).effects
      (endpoint.run settings operations).endpoint.link := by
  -- Each operation goes on from the link that the one before it left.
  induction operations generalizing endpoint with
  | nil => exact .still _
  | cons operation rest ih => exact .andThen (operate_moves settings endpoint operation) (ih _)

/-- Every step that can be taken on an endpoint moves its link lawfully. -/
theorem take_moves {Server : Type} (world : World) (locate : Server → Except Answer String)
    (endpoint : Endpoint) (step : EndpointStep Server) :
    Moves endpoint.link (endpoint.take world locate step).reaction.effects
      (endpoint.take world locate step).reaction.endpoint.link := by
  -- A step is a run of operations.
  obtain ⟨operations, same⟩ := take_eq_run world locate endpoint step
  rw [same]
  exact run_moves world.settings endpoint operations

/-- A run changes neither the machine of an endpoint nor, with it, the name. -/
@[simp] theorem run_name (settings : Settings) (endpoint : Endpoint)
    (operations : List Operation) :
    (endpoint.run settings operations).endpoint.name = endpoint.name :=
  congrArg Machine.name (run_moves settings endpoint operations).machine_eq

/-- A run does not change the address that an endpoint connects to. -/
@[simp] theorem run_ip (settings : Settings) (endpoint : Endpoint) (operations : List Operation) :
    (endpoint.run settings operations).endpoint.ip = endpoint.ip :=
  congrArg Address.ip (run_moves settings endpoint operations).address_eq

end Endpoint

end ComputerRoom
