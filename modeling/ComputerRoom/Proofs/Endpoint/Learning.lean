import ComputerRoom.Proofs.Endpoint.Moves

/-! What an operation can do to the watched cells of an endpoint, and the news it publishes. -/

namespace ComputerRoom

/-- The signal that an operation brings to an endpoint of a session, if it is not dropped. -/
def Operation.signal? (session : SessionId) : Operation → Option Signal
  | .event _ _ tagged signal | .supervised _ _ tagged signal =>
    if tagged = session then some signal else none
  | .link _ status => some (.state status)
  | .identity _ _ username homeFolder => some (.identity username homeFolder)
  | .flags mask => some (.flags mask)
  | _ => none

/-- Whether an episode forgets the user: its endpoint closes, is found dead, or loses its link. -/
def Episode.forgets (settings : Settings) (episode : Episode) : Bool :=
  match episode.operation with
  | .close => true
  | .update now => episode.before.isDead settings now
  | operation =>
    match operation.signal? episode.before.session with
    | some (.state status) => status != .connected && episode.before.state.current.isUp
    | _ => false

/-- Whether an effect is a notice about the user or the flags of a machine. -/
def Effect.isNews : Effect → Bool
  | .published (.identity _ _) | .published (.flagChanged _ _ _) => true
  | _ => false

/-- The news among some effects, in order. -/
def Reaction.news (reaction : Reaction) : List Effect :=
  reaction.effects.filter (·.isNews)

/-- The cells of an endpoint that are asked for changes. -/
structure Watched where
  state : Tracked Connection
  username : Tracked (Option String)
  flags : Tracked (Option FlagMask)
  teacher : Tracked Bool

namespace Watched

/-- The cells once the connection is said to be in a state. -/
def moveTo (watched : Watched) (state : Connection) : Watched :=
  { watched with state := watched.state.set state }

/-- The cells once nothing is known of the user any more. -/
def forgetUser (watched : Watched) : Watched :=
  { watched with username := .start none, flags := .start none, teacher := .start false }

/-- The cells once every change was reported. -/
def settle (watched : Watched) : Watched :=
  ⟨watched.state.settle, watched.username.settle, watched.flags.settle, watched.teacher.settle⟩

end Watched

namespace Endpoint

/-- The reaction of an endpoint to a signal; `teaches` tells whether the user it names teaches. -/
def hear (settings : Settings) (now : Nat) (teaches : Bool) (endpoint : Endpoint) :
    Signal → Reaction
  | .state status => endpoint.takeLink settings now status
  | .identity username homeFolder => endpoint.takeIdentity now teaches username homeFolder
  | .flags mask => (endpoint.takeFlags mask).2

/-- The cells of an endpoint that are asked for changes, at present. -/
def watched (endpoint : Endpoint) : Watched :=
  ⟨endpoint.state, endpoint.username, endpoint.flags, endpoint.teacher⟩

/-- All that an operation on an endpoint can do to its watched cells, each with the news of it. -/
inductive Learns (settings : Settings) (endpoint : Endpoint) (operation : Operation)
    (reaction : Reaction) : Prop where
  | kept (remembers : Episode.forgets settings ⟨endpoint, operation, reaction⟩ = false)
      (cells : reaction.endpoint.watched = endpoint.watched) (silent : reaction.news = [])
  | polled (asked : operation = .poll)
      (cells : reaction.endpoint.watched = endpoint.watched.settle) (silent : reaction.news = [])
  | rose (state : Connection)
      (remembers : Episode.forgets settings ⟨endpoint, operation, reaction⟩ = false)
      (up : state.isUp = true)
      (cells : reaction.endpoint.watched = endpoint.watched.moveTo state)
      (silent : reaction.news = [])
  | fell (state : Connection)
      (remembers : Episode.forgets settings ⟨endpoint, operation, reaction⟩ = false)
      (down : state.isUp = false) (before : endpoint.state.current.isUp = false)
      (cells : reaction.endpoint.watched = endpoint.watched.moveTo state)
      (silent : reaction.news = [])
  | lost (state : Connection)
      (forgets : Episode.forgets settings ⟨endpoint, operation, reaction⟩ = true)
      (down : state.isUp = false)
      (cells : reaction.endpoint.watched = (endpoint.watched.moveTo state).forgetUser)
      (silent : reaction.news = [])
  | identified {username homeFolder : String} {teaches : Bool}
      (heard : operation.signal? endpoint.session = some (.identity username homeFolder))
      (cells : reaction.endpoint.watched = { endpoint.watched with
        username := endpoint.username.set (nonEmpty? username)
        teacher := endpoint.teacher.set teaches })
      (told : reaction.news = if endpoint.username.current = nonEmpty? username then []
        else [.published (.identity endpoint.name (nonEmpty? username))])
  | flagged {mask : FlagMask}
      (heard : operation.signal? endpoint.session = some (.flags mask))
      (cells : reaction.endpoint.watched = { endpoint.watched with
        flags := endpoint.flags.set (some mask) })
      (told : reaction.news = (mask.flipsSince endpoint.flags.current).map fun (flag, value) =>
        .published (.flagChanged endpoint.name flag value))

variable {settings : Settings} {endpoint : Endpoint} {operation : Operation}

/-- Commands are no news. -/
@[simp] theorem news_send (endpoint : Endpoint) (commands : List Command) :
    (endpoint.send commands).news = [] := by
  -- Whatever is sent, every effect is a command.
  unfold send
  split <;> simp [Reaction.news, Effect.isNews]

/-- Starting supervision leaves the watched cells alone. -/
@[simp] theorem start_watched (now : Nat) (endpoint : Endpoint) :
    (endpoint.start now).watched = endpoint.watched := by
  -- Only the supervision of an endpoint is written.
  unfold start
  split <;> rfl

/-- Ending supervision leaves the watched cells alone. -/
@[simp] theorem stop_watched (endpoint : Endpoint) : endpoint.stop.watched = endpoint.watched := by
  -- Only the supervision of an endpoint is written.
  unfold stop
  split <;> rfl

/-- Opening the link leaves the watched cells alone, and is no news. -/
theorem connect_watched (settings : Settings) (endpoint : Endpoint) :
    (endpoint.connect settings).endpoint.watched = endpoint.watched ∧
      (endpoint.connect settings).news = [] := by
  -- Only the channel and the count of openings are written.
  unfold connect
  split <;> exact ⟨rfl, rfl⟩

/-- Disconnecting forgets the user, and is no news. -/
theorem disconnect_watched (endpoint : Endpoint) :
    endpoint.disconnect.endpoint.watched =
        (endpoint.watched.moveTo .disconnected).forgetUser ∧
      endpoint.disconnect.news = [] := by
  -- What is let go of depends on the channel, but the cells do not.
  unfold disconnect release
  split <;> exact ⟨rfl, rfl⟩

/-- An event that is not dropped is taken like a signal of its kind. -/
theorem handle_eq_hear (settings : Settings) (now : Nat) (roster : Roster) (endpoint : Endpoint)
    (signal : Signal) : ∃ teaches,
      (endpoint.handle settings now roster endpoint.session signal).reaction =
        endpoint.hear settings now teaches signal := by
  -- Only for an answer about the user does it matter who teaches.
  cases signal with
  | state status => exact ⟨false, by simp [handle, hear]⟩
  | identity username homeFolder => exact ⟨_, by simp [handle, identify, hear]; rfl⟩
  | flags mask => exact ⟨false, by simp [handle, hear]⟩

/-- An operation that brings a signal does what hearing it does, and leaves the cells alike. -/
theorem operate_of_signal (settings : Settings) {signal : Signal}
    (heard : operation.signal? endpoint.session = some signal) :
    ∃ now teaches,
      (endpoint.operate settings operation).endpoint.watched =
          (endpoint.hear settings now teaches signal).endpoint.watched ∧
        (endpoint.operate settings operation).effects =
          (endpoint.hear settings now teaches signal).effects := by
  -- A signal comes as an event, through supervision, or straight to the endpoint.
  cases operation with
  | event now roster tagged event =>
    simp only [Operation.signal?, Option.ite_none_right_eq_some, Option.some.injEq] at heard
    obtain ⟨rfl, rfl⟩ := heard
    obtain ⟨teaches, taken⟩ := handle_eq_hear settings now roster endpoint event
    exact ⟨now, teaches, by rw [operate, taken], by rw [operate, taken]⟩
  | supervised now roster tagged event =>
    simp only [Operation.signal?, Option.ite_none_right_eq_some, Option.some.injEq] at heard
    obtain ⟨rfl, rfl⟩ := heard
    obtain ⟨teaches, taken⟩ := handle_eq_hear settings now roster endpoint event
    rw [operate_supervised_part _ _ _ _ _ _ watched stop_watched, operate_supervised_effects]
    exact ⟨now, teaches, by rw [operate, taken], by rw [operate, taken]⟩
  | link now status =>
    obtain rfl := Option.some.inj heard
    exact ⟨now, false, rfl, rfl⟩
  | identity now roster username homeFolder =>
    obtain rfl := Option.some.inj heard
    exact ⟨now, _, rfl, rfl⟩
  | flags mask =>
    obtain rfl := Option.some.inj heard
    exact ⟨0, false, rfl, rfl⟩
  | _ => simp [Operation.signal?] at heard

/-- What is learned is told by the cells that are left, and by what is done. -/
theorem Learns.of_alike {reaction after : Reaction}
    (learns : endpoint.Learns settings operation reaction)
    (same : after.endpoint.watched = reaction.endpoint.watched)
    (does : after.effects = reaction.effects) : endpoint.Learns settings operation after := by
  have told : after.news = reaction.news := congrArg (List.filter Effect.isNews) does
  cases learns with
  | kept remembers cells silent => exact .kept remembers (same.trans cells) (told.trans silent)
  | polled asked cells silent => exact .polled asked (same.trans cells) (told.trans silent)
  | rose state remembers up cells silent =>
    exact .rose state remembers up (same.trans cells) (told.trans silent)
  | fell state remembers down before cells silent =>
    exact .fell state remembers down before (same.trans cells) (told.trans silent)
  | lost state forgets down cells silent =>
    exact .lost state forgets down (same.trans cells) (told.trans silent)
  | identified heard cells news => exact .identified heard (same.trans cells) (told.trans news)
  | flagged heard cells news => exact .flagged heard (same.trans cells) (told.trans news)

/-- An operation that brings a signal forgets the user only if it takes a link down that was up. -/
theorem forgets_of_signal {reaction : Reaction} {signal : Signal}
    (heard : operation.signal? endpoint.session = some signal) :
    Episode.forgets settings ⟨endpoint, operation, reaction⟩ =
      match signal with
      | .state status => status != .connected && endpoint.state.current.isUp
      | _ => false := by
  -- Neither closing nor checking the connection brings a signal.
  cases operation with
  | close | update => simp [Operation.signal?] at heard
  | _ => simp only [Episode.forgets, heard]; cases signal <;> rfl

/-- A link that comes up is no news, and moves the state to one that is up. -/
theorem takeLinkUp_watched (settings : Settings) (now : Nat) (endpoint : Endpoint) :
    let reaction := endpoint.takeLinkUp settings now
    reaction.news = [] ∧
      (reaction.endpoint.watched = endpoint.watched ∨
        ∃ state : Connection, state.isUp = true ∧
          reaction.endpoint.watched = endpoint.watched.moveTo state) := by
  intro reaction
  simp only [reaction, takeLinkUp]
  split
  · exact ⟨rfl, .inl rfl⟩
  · -- Whether anybody is asked is no news.
    split <;> exact ⟨rfl, .inr ⟨.connected, rfl, rfl⟩⟩
  · split
    · exact ⟨rfl, .inl rfl⟩
    · exact ⟨rfl, .inr ⟨.ready, rfl, rfl⟩⟩

/-- A report on the link moves the state, and forgets the user of a link that was up. -/
theorem learns_of_state {status : LinkStatus} {now : Nat}
    (heard : operation.signal? endpoint.session = some (.state status)) :
    endpoint.Learns settings operation (endpoint.takeLink settings now status) := by
  -- That the user is forgotten is read off the report; the cases differ in how the state moves.
  have forgets := @forgets_of_signal settings endpoint operation
    (endpoint.takeLink settings now status) _ heard
  simp only at forgets
  by_cases up : status = .connected
  · subst up
    have remembers : Episode.forgets settings ⟨endpoint, operation, _⟩ = false := forgets
    obtain ⟨silent, same | ⟨state, rises, moved⟩⟩ := takeLinkUp_watched settings now endpoint
    · exact .kept remembers same silent
    · exact .rose state remembers rises moved silent
  · -- Only a link that was up has a user to forget.
    rw [takeLink_of_ne_connected settings now endpoint up] at forgets ⊢
    have down := ofLink_isUp up
    cases before : endpoint.state.current.isUp with
    | false =>
      refine .fell _ (by simpa [before] using forgets) down before ?_ rfl
      simp only [takeLinkDown, before, Bool.false_eq_true, if_false]
      rfl
    | true =>
      have falls : (status != .connected) = true := by simpa using up
      refine .lost _ (by simpa [before, falls] using forgets) down ?_ rfl
      simp only [takeLinkDown, before, if_true]
      rfl

/-- An answer about the user is taken into the cells, and is news if the user is another one. -/
theorem takeIdentity_watched (now : Nat) (teaches : Bool) (username homeFolder : String)
    (endpoint : Endpoint) :
    let reaction := endpoint.takeIdentity now teaches username homeFolder
    reaction.endpoint.watched = { endpoint.watched with
        username := endpoint.username.set (nonEmpty? username)
        teacher := endpoint.teacher.set teaches } ∧
      reaction.news = if endpoint.username.current = nonEmpty? username then []
        else [.published (.identity endpoint.name (nonEmpty? username))] := by
  intro reaction
  -- Asking for flags leaves the endpoint as it is, and is no news.
  have asks : ∀ (informed : Endpoint) (asking : Bool),
      let asked := if asking then informed.send [.requestFlags] else ⟨informed, []⟩
      asked.endpoint = informed ∧ asked.news = [] := by
    intro informed asking
    cases asking with
    | false => exact ⟨rfl, rfl⟩
    | true => exact ⟨send_endpoint informed _, news_send informed _⟩
  obtain ⟨same, silent⟩ := asks { endpoint with
    lastResponse := now
    username := endpoint.username.set (nonEmpty? username)
    homeFolder := endpoint.homeFolder.set (nonEmpty? homeFolder)
    teacher := endpoint.teacher.set teaches } (nonEmpty? username).isSome
  by_cases known : endpoint.username.current = nonEmpty? username
  · have equal : (endpoint.username.current == nonEmpty? username) = true := by simpa using known
    simp only [reaction, takeIdentity, if_pos equal, if_pos known]
    exact ⟨congrArg watched same, silent⟩
  · have unlike : ¬ (endpoint.username.current == nonEmpty? username) = true := by
      simpa using known
    simp only [reaction, takeIdentity, if_neg unlike, if_neg known]
    refine ⟨congrArg watched same, ?_⟩
    -- The notice about the user comes after whatever was asked.
    simp only [Reaction.news, List.filter_append] at silent ⊢
    rw [silent]
    rfl

/-- A report of flags is taken into its cell, and every flip is news. -/
theorem takeFlags_watched (mask : FlagMask) (endpoint : Endpoint) :
    let reaction := (endpoint.takeFlags mask).2
    reaction.endpoint.watched =
        { endpoint.watched with flags := endpoint.flags.set (some mask) } ∧
      reaction.news = (mask.flipsSince endpoint.flags.current).map fun (flag, value) =>
        .published (.flagChanged endpoint.name flag value) := by
  refine ⟨rfl, List.filter_eq_self.mpr ?_⟩
  -- All that taking flags does is to publish the flips.
  intro effect member
  obtain ⟨flip, _, rfl⟩ := List.mem_map.mp member
  rfl

/-- An operation that brings a signal has the watched cells take it. -/
theorem learns_of_signal {signal : Signal}
    (heard : operation.signal? endpoint.session = some signal) :
    endpoint.Learns settings operation (endpoint.operate settings operation) := by
  obtain ⟨now, teaches, same, does⟩ := operate_of_signal settings heard
  suffices learns : endpoint.Learns settings operation
      (endpoint.hear settings now teaches signal) from learns.of_alike same does
  cases signal with
  | state status => exact learns_of_state heard
  | identity username homeFolder =>
    obtain ⟨cells, told⟩ := takeIdentity_watched now teaches username homeFolder endpoint
    exact .identified heard cells told
  | flags mask =>
    obtain ⟨cells, told⟩ := takeFlags_watched mask endpoint
    exact .flagged heard cells told

/-- A check that finds the connection alive leaves the watched cells alone, and is no news. -/
theorem update_watched_of_alive {now : Nat} (alive : endpoint.isDead settings now = false) :
    (endpoint.update settings now).endpoint.watched = endpoint.watched ∧
      (endpoint.update settings now).news = [] := by
  unfold update
  split
  · exact ⟨rfl, rfl⟩
  · rename_i ready
    have heard : ¬ settings.liveTimeout < endpoint.silence now := by simp_all [isDead]
    rw [if_neg heard]
    exact ⟨congrArg watched (send_endpoint endpoint _), news_send endpoint _⟩

/-- An order leaves the watched cells alone, and is no news. -/
theorem perform_watched (settings : Settings) (order : Order) (endpoint : Endpoint) :
    (endpoint.perform settings order).2.endpoint.watched = endpoint.watched ∧
      (endpoint.perform settings order).2.news = [] := by
  unfold perform
  split
  · -- The viewers are not watched, and neither is what is sent.
    let script := order.script settings endpoint.viewers
    let served := { endpoint with viewers := script.viewers }
    have kept := congrArg watched (send_endpoint served script.commands)
    exact ⟨kept, news_send served script.commands⟩
  · exact ⟨rfl, rfl⟩

/-- Whatever happens to an endpoint, its watched cells change in one of a few ways. -/
theorem operate_learns (settings : Settings) (endpoint : Endpoint) (operation : Operation) :
    endpoint.Learns settings operation (endpoint.operate settings operation) := by
  cases heard : operation.signal? endpoint.session with
  | some signal => exact learns_of_signal heard
  | none =>
    -- An event that is dropped does nothing, and other operations bring no signal at all.
    cases operation with
    | connect =>
      obtain ⟨same, silent⟩ := connect_watched settings endpoint
      exact .kept rfl same silent
    | start now => exact .kept rfl (start_watched now endpoint) rfl
    | close =>
      obtain ⟨forgotten, silent⟩ := disconnect_watched endpoint.stop
      rw [stop_watched] at forgotten
      exact .lost .disconnected rfl rfl forgotten silent
    | event now roster tagged event =>
      have other : tagged ≠ endpoint.session := by simpa [Operation.signal?] using heard
      have dropped : endpoint.operate settings (.event now roster tagged event) =
          ⟨endpoint, []⟩ := by simp [operate, handle, other]
      exact .kept (by simp [Episode.forgets, heard]) (by rw [dropped]) (by rw [dropped]; rfl)
    | supervised now roster tagged event =>
      have other : tagged ≠ endpoint.session := by simpa [Operation.signal?] using heard
      have dropped : endpoint.operate settings (.supervised now roster tagged event) =
          ⟨endpoint, []⟩ := by simp [operate, World.supervise, breaksOff, handle, other]
      exact .kept (by simp [Episode.forgets, heard]) (by rw [dropped]) (by rw [dropped]; rfl)
    | link | identity | flags => simp [Operation.signal?] at heard
    | update now =>
      cases dead : endpoint.isDead settings now with
      | false =>
        obtain ⟨same, silent⟩ := update_watched_of_alive dead
        exact .kept dead same silent
      | true =>
        -- The user is forgotten with the old connection, and the new one is no news.
        obtain ⟨forgotten, silent⟩ := disconnect_watched endpoint
        let waiting := { endpoint.disconnect.endpoint with
          lastResponse := now + settings.liveTimeout }
        obtain ⟨same, quiet⟩ := connect_watched settings waiting
        refine .lost .disconnected dead rfl ?_ ?_
        · rw [operate, update_of_isDead dead]
          exact same.trans forgotten
        · rw [operate, update_of_isDead dead]
          simp only [Reaction.news, Reaction.andThen, List.filter_append] at silent quiet ⊢
          rw [silent]
          exact quiet
    | poll => exact .polled rfl rfl rfl
    | perform order =>
      obtain ⟨same, silent⟩ := perform_watched settings order endpoint
      exact .kept rfl same silent

end Endpoint

end ComputerRoom
