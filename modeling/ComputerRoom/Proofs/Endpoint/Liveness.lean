import ComputerRoom.Proofs.Endpoint.Dispatch
import ComputerRoom.Proofs.Endpoint.Generation
import ComputerRoom.Proofs.Endpoint.Handshake

/-!
When a check opens the connection anew: the machine has to be silent for longer than the timeout,
counted from what was last heard of it or from when it was last given time.
-/

namespace ComputerRoom

namespace Operation

/-- Whether an operation tells an endpoint of a session who is logged in. -/
def identifies (session : SessionId) : Operation → Bool
  | .event _ _ tagged (.identity _ _) | .supervised _ _ tagged (.identity _ _) => tagged == session
  | .identity _ _ _ _ => true
  | _ => false

end Operation

namespace Episode

/-- Whether a transport is opened in an episode. -/
def opens (episode : Episode) : Bool :=
  episode.reaction.effects.any (·.opens)

/-- Whether a transport is let go of in an episode. -/
def releases (episode : Episode) : Bool :=
  episode.reaction.effects.any (·.releases)

/--
Whether, after some episodes, a transport was opened whose link has not come up yet. The latest
episode comes first.
-/
def awaitsLink : List Episode → Bool
  | [] => false
  | latest :: earlier => latest.opens ||
      awaitsLink earlier && !latest.operation.connects latest.before.session && !latest.releases

/--
The time from which silence is counted after an episode, if the episode sets it: an answer about the
user counts from now on. A machine whose link comes up for the first time gets a timeout more, if
the clock can tell its end, and so does one whose connection a check opens anew.
-/
def hears? (settings : Settings) (awaits : Bool) (episode : Episode) : Option Nat :=
  match episode.operation with
  | .update now => if episode.opens then some (now + settings.liveTimeout) else none
  | operation =>
    if operation.identifies episode.before.session then operation.time?
    else if awaits && operation.connects episode.before.session then
      (operation.time?.map (· + settings.liveTimeout)).filter (· ≤ settings.clockEnd)
    else none

/-- The time from which silence is counted after some episodes, the latest of which comes first. -/
def silentSince (settings : Settings) (created : Nat) : List Episode → Nat
  | [] => created
  | latest :: earlier =>
    (latest.hears? settings (awaitsLink earlier)).getD (silentSince settings created earlier)

/-- Whether silence is counted after an episode as it is heard, and as before if it is not. -/
def CountsSilence (settings : Settings) (episode : Episode) : Prop :=
  episode.reaction.endpoint.lastResponse =
    (episode.hears? settings (episode.before.channel == .transport)).getD
      episode.before.lastResponse

/-- Whether a bare transport is held after an episode if one was opened, or was kept as it is. -/
def KeepsAwaiting (episode : Episode) : Prop :=
  (episode.reaction.endpoint.channel == .transport) =
    (episode.opens || (episode.before.channel == .transport) &&
      !episode.operation.connects episode.before.session && !episode.releases)

/-- The time at which a check opens the connection anew in an episode, if it does. -/
def reopening? (episode : Episode) : Option Nat :=
  match episode.operation with
  | .update now => if episode.opens then some now else none
  | _ => none

end Episode

namespace Endpoint

variable {settings : Settings} {endpoint : Endpoint}

/-- Opening the link does not count as hearing of the machine. -/
@[simp] theorem connect_lastResponse (settings : Settings) (endpoint : Endpoint) :
    (endpoint.connect settings).endpoint.lastResponse = endpoint.lastResponse := by
  -- Only the channel and the count of openings are written.
  unfold connect
  split <;> rfl

/-- Starting supervision does not count as hearing of the machine. -/
@[simp] theorem start_lastResponse (now : Nat) (endpoint : Endpoint) :
    (endpoint.start now).lastResponse = endpoint.lastResponse := by
  -- Only the supervision of an endpoint is written.
  unfold start
  split <;> rfl

/-- Ending supervision does not count as hearing of the machine. -/
@[simp] theorem stop_lastResponse (endpoint : Endpoint) :
    endpoint.stop.lastResponse = endpoint.lastResponse := by
  -- Only the supervision of an endpoint is written.
  unfold stop
  split <;> rfl

/-- Closing does not count as hearing of the machine. -/
@[simp] theorem close_lastResponse (endpoint : Endpoint) :
    endpoint.close.endpoint.lastResponse = endpoint.lastResponse := by
  -- Letting go of the link and forgetting the user write other parts of the endpoint.
  rw [← stop_lastResponse endpoint, close, disconnect, release]
  split <;> rfl

/-- An order does not count as hearing of the machine. -/
@[simp] theorem perform_lastResponse (settings : Settings) (order : Order) (endpoint : Endpoint) :
    (endpoint.perform settings order).2.endpoint.lastResponse = endpoint.lastResponse := by
  -- An order that is sent changes the viewers at most.
  unfold perform
  split
  · simp
  · rfl

/-- A machine whose link comes up for the first time gets a timeout more, if the clock lasts. -/
theorem takeLink_lastResponse (settings : Settings) (now : Nat) (status : LinkStatus)
    (endpoint : Endpoint) :
    (endpoint.takeLink settings now status).endpoint.lastResponse =
      if endpoint.channel = .transport ∧ status = .connected ∧
          settings.outlastsClock now = false then now + settings.liveTimeout
      else endpoint.lastResponse := by
  by_cases up : status = .connected
  · -- Only a bare transport is joined by a session, which is when the time is set.
    subst up
    simp only [takeLink, Connection.ofLink, takeLinkUp]
    cases held : endpoint.channel with
    | closed => simp
    | transport => cases late : settings.outlastsClock now <;> simp
    | session =>
      simp
      split <;> rfl
  · rw [takeLink_of_ne_connected settings now endpoint up, if_neg (by simp [up]), takeLinkDown]
    split <;> rfl

/-- A connection is dead if it is ready and its machine was silent for longer than the timeout. -/
theorem isDead_iff {now : Nat} :
    endpoint.isDead settings now = true ↔
      endpoint.state.current = .ready ∧ settings.liveTimeout < now - endpoint.lastResponse := by
  simp only [isDead, isReady, Bool.and_eq_true, beq_iff_eq, decide_eq_true_eq]
  rfl

/-- A check opens a transport exactly if it finds the connection dead. -/
theorem update_opens_iff {now : Nat} :
    (endpoint.update settings now).effects.any (·.opens) = true ↔
      endpoint.isDead settings now = true := by
  cases dead : endpoint.isDead settings now with
  | false =>
    -- A check that finds the connection alive only talks, and talk opens nothing.
    have none := (Link.Moves.countP_talk (update_talks dead).talk).1
    simpa using List.countP_eq_zero.mp none
  | true =>
    obtain ⟨effect, member, opening⟩ := List.countP_pos_iff.mp (update_opens dead)
    exact iff_of_true (List.any_eq_true.mpr ⟨effect, member, opening⟩) rfl

/-- A check that opens the connection anew gives the machine a timeout more, and no other does. -/
theorem update_lastResponse (settings : Settings) (now : Nat) (endpoint : Endpoint) :
    (endpoint.update settings now).endpoint.lastResponse =
      if endpoint.isDead settings now = true then now + settings.liveTimeout
      else endpoint.lastResponse := by
  by_cases dead : endpoint.isDead settings now = true
  · -- The time is set in between, and opening the link leaves it.
    rw [if_pos dead, update_of_isDead dead]
    simp [Reaction.andThen]
  · -- What is left is to ask, or to do nothing at all.
    rw [if_neg dead, update]
    split
    · rfl
    · rename_i ready
      have heard : ¬ settings.liveTimeout < endpoint.silence now := by simp_all [isDead]
      rw [if_neg heard, send_endpoint]

/-- A report is heard, whichever operation brings it, if it is the first that the link is up. -/
theorem report_countsSilence {operation : Operation} {now : Nat} {status : LinkStatus}
    {reaction : Reaction} (reported : operation.report? endpoint.session = some status)
    (timed : operation.time? = some now)
    (unnamed : operation.identifies endpoint.session = false)
    (leaves : reaction.endpoint.lastResponse =
      (endpoint.takeLink settings now status).endpoint.lastResponse) :
    Episode.CountsSilence settings ⟨endpoint, operation, reaction⟩ := by
  have connects : operation.connects endpoint.session = (status == .connected) := by
    simp [Operation.connects, reported]
  -- A check brings no report, so what is heard is not the opening of a connection.
  have heard : Episode.hears? settings (endpoint.channel == .transport)
      ⟨endpoint, operation, reaction⟩ =
        if endpoint.channel == .transport && status == .connected then
          (some (now + settings.liveTimeout)).filter (· ≤ settings.clockEnd) else none := by
    cases operation with
    | update => contradiction
    | _ => simp [Episode.hears?, unnamed, connects, timed]
  rw [Episode.CountsSilence, heard, leaves, takeLink_lastResponse]
  by_cases first : endpoint.channel = .transport ∧ status = .connected
  · by_cases late : settings.clockEnd < now + settings.liveTimeout
    · simp [first, Settings.outlastsClock, Option.filter, late, Nat.not_le_of_lt late]
    · simp [first, Settings.outlastsClock, Option.filter, late, Nat.le_of_not_lt late]
  · have other : ¬ (endpoint.channel = .transport ∧ status = .connected ∧
        settings.outlastsClock now = false) := fun all => first ⟨all.1, all.2.1⟩
    rw [if_neg other, if_neg (by simpa using first)]
    rfl

/-- An event is heard as the answer or the report that it brings to the current session. -/
theorem event_countsSilence (now : Nat) (roster : Roster) (tagged : SessionId) (event : Signal) :
    Episode.CountsSilence settings ⟨endpoint, .event now roster tagged event,
      endpoint.operate settings (.event now roster tagged event)⟩ := by
  -- An event is told apart as it is dispatched: by its session first, and then by its kind.
  by_cases current : tagged = endpoint.session
  · subst current
    cases event with
    | identity username homeFolder =>
      simp [Episode.CountsSilence, operate, handle, identify, Episode.hears?,
        Operation.identifies, Operation.time?]
    | flags mask =>
      simp [Episode.CountsSilence, operate, handle, takeFlags, Episode.hears?,
        Operation.identifies, Operation.connects, Operation.report?, Signal.linkStatus?]
    | state status =>
      have reported : (Operation.event now roster endpoint.session (.state status)).report?
          endpoint.session = some status := by simp [Operation.report?, Signal.linkStatus?]
      refine report_countsSilence reported rfl rfl ?_
      rw [event_report reported]
  · -- An event of another session is dropped, and counts for nothing either.
    have tag : (tagged == endpoint.session) = false := by simpa using current
    have silent : (Operation.event now roster tagged event).identifies endpoint.session = false :=
      by cases event <;> simp [Operation.identifies, tag]
    simp [Episode.CountsSilence, operate, handle, current, silent, Episode.hears?,
      Operation.connects, Operation.report?]

/-- Supervision hears what the endpoint would. -/
theorem supervised_countsSilence (now : Nat) (roster : Roster) (tagged : SessionId)
    (event : Signal) :
    Episode.CountsSilence settings ⟨endpoint, .supervised now roster tagged event,
      endpoint.operate settings (.supervised now roster tagged event)⟩ := by
  have counts := @event_countsSilence settings endpoint now roster tagged event
  unfold Episode.CountsSilence at counts ⊢
  rw [operate_supervised_part _ _ _ _ _ _ Endpoint.lastResponse stop_lastResponse, counts]
  -- What is heard is told by the event, whoever takes it.
  cases event <;> rfl

/-- Whatever happens to an endpoint, silence is counted after it as it is heard. -/
theorem operate_countsSilence (settings : Settings) (endpoint : Endpoint)
    (operation : Operation) :
    Episode.CountsSilence settings
      ⟨endpoint, operation, endpoint.operate settings operation⟩ := by
  -- What neither brings an answer nor a report, nor checks the connection, is not heard at all.
  cases operation with
  | event now roster tagged event => exact event_countsSilence now roster tagged event
  | supervised now roster tagged event => exact supervised_countsSilence now roster tagged event
  | link now status => exact report_countsSilence rfl rfl rfl rfl
  | identity now roster username homeFolder =>
    simp [Episode.CountsSilence, operate, identify, Episode.hears?, Operation.identifies,
      Operation.time?]
  | update now =>
    -- A check is heard exactly if it opens the connection anew.
    simp only [Episode.CountsSilence, operate, update_lastResponse, Episode.hears?,
      Episode.opens, update_opens_iff]
    split <;> rfl
  | _ =>
    simp [Episode.CountsSilence, operate, takeFlags, poll, Episode.hears?, Operation.identifies,
      Operation.connects, Operation.report?]

/-- What is heard is heard at the time of the operation or later. -/
theorem hears?_time {awaits : Bool} {episode : Episode} {heard : Nat}
    (hears : episode.hears? settings awaits = some heard) :
    ∃ now, episode.operation.time? = some now ∧ now ≤ heard := by
  -- The time is that of the operation, or a timeout later.
  unfold Episode.hears? at hears
  split at hears
  · rename_i now same
    have later : now + settings.liveTimeout = heard := by simp_all
    exact ⟨now, by simp [same, Operation.time?], by omega⟩
  · split at hears
    · exact ⟨heard, hears, Nat.le_refl heard⟩
    · split at hears
      · obtain ⟨later, _⟩ := Option.filter_eq_some_iff.mp hears
        obtain ⟨now, timed, later⟩ := Option.map_eq_some_iff.mp later
        exact ⟨now, timed, by omega⟩
      · contradiction

/-- Talk that brings no report neither opens the link nor lets go of it. -/
theorem Talks.keepsAwaiting {operation : Operation} {reaction : Reaction}
    (talks : endpoint.Talks reaction)
    (unreported : operation.connects endpoint.session = false) :
    Episode.KeepsAwaiting ⟨endpoint, operation, reaction⟩ := by
  obtain ⟨kept, talk⟩ := talks
  obtain ⟨opened, stopped, _, hungUp⟩ := Link.Moves.countP_talk talk
  rw [List.countP_eq_zero] at opened stopped hungUp
  have unopened : Episode.opens ⟨endpoint, operation, reaction⟩ = false := by
    simpa [Episode.opens] using opened
  have unreleased : Episode.releases ⟨endpoint, operation, reaction⟩ = false := by
    refine List.any_eq_false.mpr fun effect member => ?_
    simp only [Effect.releases, Bool.or_eq_true, not_or]
    exact ⟨stopped effect member, hungUp effect member⟩
  have held : reaction.endpoint.channel = endpoint.channel := congrArg Link.channel kept
  simp [Episode.KeepsAwaiting, unopened, unreleased, unreported, held]

/-- A link that comes up is not held by a bare transport, and no transport is opened for it. -/
theorem takeLinkUp_awaits_nothing (settings : Settings) (now : Nat) (endpoint : Endpoint) :
    (endpoint.takeLinkUp settings now).endpoint.channel ≠ .transport ∧
      (endpoint.takeLinkUp settings now).effects.any (·.opens) = false := by
  -- Once the link is up, whatever is held is a session.
  unfold takeLinkUp
  cases held : endpoint.channel with
  | closed => simp [held]
  | transport | session =>
    simp only
    split <;> simp [held]

/-- A report on the link ends the waiting if it tells that the link is up. -/
theorem takeLink_keepsAwaiting {operation : Operation} (now : Nat) {status : LinkStatus}
    (reported : operation.report? endpoint.session = some status) :
    Episode.KeepsAwaiting ⟨endpoint, operation, endpoint.takeLink settings now status⟩ := by
  -- Only a report that the link is up can layer a session on the bare transport.
  by_cases up : status = .connected
  · -- No bare transport is left, whether or not there was one.
    subst up
    obtain ⟨joined, unopened⟩ := takeLinkUp_awaits_nothing settings now endpoint
    have connects : operation.connects endpoint.session = true := by
      simp [Operation.connects, reported]
    have held : ((endpoint.takeLinkUp settings now).endpoint.channel == .transport) = false := by
      simpa using joined
    simp only [Episode.KeepsAwaiting, Episode.opens, takeLink, Connection.ofLink, held, unopened,
      connects, Bool.not_true, Bool.and_false, Bool.false_and, Bool.or_false]
  · -- A link that goes down is held as it was.
    have held : (endpoint.takeLinkDown (.ofLink status)).channel = endpoint.channel :=
      congrArg Link.channel (takeLinkDown_link (.ofLink status) endpoint)
    have connects : operation.connects endpoint.session = false := by
      simpa [Operation.connects, reported] using up
    rw [takeLink_of_ne_connected settings now endpoint up]
    simp [Episode.KeepsAwaiting, Episode.opens, Episode.releases, held, connects]

/-- An event ends the waiting if it tells the current session that the link is up. -/
theorem event_keepsAwaiting (now : Nat) (roster : Roster) (tagged : SessionId) (event : Signal) :
    Episode.KeepsAwaiting ⟨endpoint, .event now roster tagged event,
      endpoint.operate settings (.event now roster tagged event)⟩ := by
  cases reported : (Operation.event now roster tagged event).report? endpoint.session with
  | none =>
    exact (event_talks reported).keepsAwaiting (by simp [Operation.connects, reported])
  | some status =>
    rw [event_report reported]
    exact takeLink_keepsAwaiting now reported

/-- After any operation, a bare transport is held if one was just opened or is still waited for. -/
theorem operate_keepsAwaiting (settings : Settings) (endpoint : Endpoint)
    (operation : Operation) :
    Episode.KeepsAwaiting ⟨endpoint, operation, endpoint.operate settings operation⟩ := by
  -- Other than talk and reports, there are the openings, the closings, and the end of the clock.
  cases operation with
  | connect =>
    by_cases closed : endpoint.channel = .closed
    · simp [Episode.KeepsAwaiting, Episode.opens, operate, connect, closed]
    · exact (connect_talks settings closed).keepsAwaiting rfl
  | start now => exact (talks_silently (start_link now endpoint)).keepsAwaiting rfl
  | close =>
    -- If a bare transport is held, it is stopped.
    have held : endpoint.stop.channel = endpoint.channel :=
      congrArg Link.channel (stop_link endpoint)
    cases channel : endpoint.channel <;>
      simp [Episode.KeepsAwaiting, Episode.opens, Episode.releases, operate, close, disconnect,
        release, forgetUser, Reaction.andThen, held, channel]
  | event now roster tagged event => exact event_keepsAwaiting now roster tagged event
  | supervised now roster tagged event =>
    -- Supervision has no part in what is awaited.
    have keeps := @event_keepsAwaiting settings endpoint now roster tagged event
    have held := operate_supervised_part settings endpoint now roster tagged event
      (fun left => left.link.channel) (fun left => congrArg Link.channel (stop_link left))
    have does := operate_supervised_effects settings endpoint now roster tagged event
    simp only [link_channel] at held
    simp only [Episode.KeepsAwaiting, Episode.opens, Episode.releases] at keeps ⊢
    rw [held, does, keeps]
    rfl
  | link now status => exact takeLink_keepsAwaiting now rfl
  | identity now roster username homeFolder =>
    exact (takeIdentity_talks now _ username homeFolder endpoint).keepsAwaiting rfl
  | flags mask => exact (takeFlags_talks mask endpoint).keepsAwaiting rfl
  | update now =>
    cases dead : endpoint.isDead settings now with
    | true =>
      -- The link is closed by then, so that connecting opens it.
      have closed : endpoint.disconnect.endpoint.channel = .closed :=
        congrArg Link.channel (disconnect_link endpoint)
      simp only [Episode.KeepsAwaiting, Episode.opens, operate, update_opens_iff.mpr dead]
      simp [update_of_isDead dead, Reaction.andThen, connect, closed]
    | false => exact (update_talks dead).keepsAwaiting rfl
  | poll => exact (talks_silently rfl).keepsAwaiting rfl
  | perform order => exact (perform_talks settings order endpoint).keepsAwaiting rfl

/-- An endpoint that keeps what its past amounts to; the latest episode of the past comes first. -/
structure Recalls (settings : Settings) (created : Nat) (past : List Episode)
    (endpoint : Endpoint) : Prop where
  lastResponse_eq : endpoint.lastResponse = Episode.silentSince settings created past
  awaits_eq : Episode.awaitsLink past = (endpoint.channel == .transport)

variable {created : Nat} {past : List Episode}

/-- Whatever happens to an endpoint, it keeps what its past amounts to. -/
theorem Recalls.step (recalls : Recalls settings created past endpoint) (operation : Operation) :
    Recalls settings created
      (⟨endpoint, operation, endpoint.operate settings operation⟩ :: past)
      (endpoint.operate settings operation).endpoint := by
  obtain ⟨heard, awaits⟩ := recalls
  constructor
  · rw [Episode.silentSince, ← heard, awaits]
    exact operate_countsSilence settings endpoint operation
  · rw [Episode.awaitsLink, awaits]
    exact (operate_keepsAwaiting settings endpoint operation).symm

/-- Over a whole run, an endpoint keeps what its past amounts to. -/
theorem Recalls.run (recalls : Recalls settings created past endpoint)
    (operations : List Operation) :
    Recalls settings created ((endpoint.episodes settings operations).reverse ++ past)
      (endpoint.run settings operations).endpoint := by
  -- Each operation goes on from the past that the ones before it made.
  induction operations generalizing endpoint past with
  | nil => simpa [episodes] using recalls
  | cons operation rest ih =>
    have next := ih (recalls.step operation)
    simpa [episodes] using next

/-- An endpoint that was just created has no past, and counts silence from its creation. -/
theorem recalls_of_create {serial : Nat} {machine : Machine} {prober : Option Prober}
    {fresh : Endpoint} (settings : Settings)
    (made : create serial created machine prober = .ok fresh) :
    Recalls settings created [] fresh := by
  obtain ⟨address, _, rfl⟩ := create_eq_ok_iff.mp made
  exact ⟨rfl, rfl⟩

/-- Nothing that happens from some time on has silence counted from before that time. -/
theorem operate_lastResponse_ge {earliest : Nat} {operation : Operation}
    (counted : earliest ≤ endpoint.lastResponse)
    (later : ∀ now, operation.time? = some now → earliest ≤ now) :
    earliest ≤ (endpoint.operate settings operation).endpoint.lastResponse := by
  have heard := operate_countsSilence settings endpoint operation
  unfold Episode.CountsSilence at heard
  rw [heard]
  -- What is heard is heard at the time of the operation at the earliest.
  cases hears : Episode.hears? settings (endpoint.channel == .transport)
      ⟨endpoint, operation, endpoint.operate settings operation⟩ with
  | none => exact counted
  | some time =>
    obtain ⟨now, timed, within⟩ := hears?_time hears
    exact Nat.le_trans (later now timed) within

/-- A check that opens the connection anew comes a timeout after what was heard last, or later. -/
theorem reopening_of_dead {operation : Operation} {now : Nat}
    (reopens : Episode.reopening?
      ⟨endpoint, operation, endpoint.operate settings operation⟩ = some now) :
    operation = .update now ∧ endpoint.lastResponse + settings.liveTimeout < now ∧
      (endpoint.operate settings operation).endpoint.lastResponse =
        now + settings.liveTimeout := by
  cases operation with
  | update time =>
    simp only [Episode.reopening?, Option.ite_none_right_eq_some, Option.some.injEq] at reopens
    obtain ⟨opens, rfl⟩ := reopens
    have dead := update_opens_iff.mp opens
    refine ⟨rfl, ?_, ?_⟩
    · have silent := (isDead_iff.mp dead).2
      omega
    · rw [operate, update_lastResponse, if_pos dead]
  | _ => contradiction

/--
While the clock does not go back, the checks that open the connection anew are more than a timeout
apart, and come more than a timeout after any time up to which silence is not counted.
-/
theorem reopenings_spaced (operations : List Operation) {earliest : Nat}
    (counted : earliest ≤ endpoint.lastResponse)
    (chronological : (earliest :: operations.filterMap (·.time?)).Pairwise (· ≤ ·)) :
    let reopenings := (endpoint.episodes settings operations).filterMap (·.reopening?)
    (∀ time ∈ reopenings, earliest + settings.liveTimeout < time) ∧
      reopenings.Pairwise fun earlier later => earlier + settings.liveTimeout < later := by
  -- Each operation goes on with the same bound, and a reopening starts over with its own time.
  induction operations generalizing endpoint earliest with
  | nil => simp [episodes]
  | cons operation rest ih =>
    intro reopenings
    obtain ⟨all, rising⟩ := List.pairwise_cons.mp chronological
    have later : ∀ now, operation.time? = some now → earliest ≤ now := fun now timed =>
      all now (List.mem_filterMap.mpr ⟨operation, List.mem_cons_self, timed⟩)
    have ordered : (rest.filterMap (·.time?)).Pairwise (· ≤ ·) :=
      rising.sublist ((List.sublist_cons_self operation rest).filterMap _)
    have rises : (earliest :: rest.filterMap (·.time?)).Pairwise (· ≤ ·) := by
      refine List.pairwise_cons.mpr ⟨fun now member => all now ?_, ordered⟩
      exact ((List.sublist_cons_self operation rest).filterMap _).subset member
    obtain ⟨bound, spaced⟩ := ih (operate_lastResponse_ge counted later) rises
    let first : Episode := ⟨endpoint, operation, endpoint.operate settings operation⟩
    cases reopens : first.reopening? with
    | none =>
      simp only [reopenings, episodes]
      rw [List.filterMap_cons_none reopens]
      exact ⟨bound, spaced⟩
    | some now =>
      -- The rest goes on from the time of this check, as silence is counted from later than that.
      obtain ⟨rfl, silent, heard⟩ := reopening_of_dead reopens
      have after : now ≤ (endpoint.operate settings (.update now)).endpoint.lastResponse := by
        omega
      have timed : (now :: rest.filterMap (·.time?)).Pairwise (· ≤ ·) := by
        simpa [Operation.time?] using rising
      obtain ⟨apart, _⟩ := ih after timed
      simp only [reopenings, episodes]
      rw [List.filterMap_cons_some reopens]
      refine ⟨List.forall_mem_cons.mpr ⟨by omega, bound⟩, List.pairwise_cons.mpr ⟨apart, spaced⟩⟩

/-- The sessions that an endpoint opens are numbered up to how many it opened. -/
theorem connect_le_of_opened {operations : List Operation} {session : SessionId}
    {request : TransportRequest}
    (opened : .opened session request ∈ (endpoint.run settings operations).effects) :
    session.connect ≤ (endpoint.run settings operations).endpoint.connects := by
  obtain ⟨past, since, cut⟩ := List.append_of_mem opened
  have moves := run_moves settings endpoint operations
  rw [cut] at moves
  -- From the opening on, the count only grows.
  obtain ⟨link, rfl, _, rest⟩ := moves.since_opened
  have counted := rest.connects_eq
  have level : (endpoint.run settings operations).endpoint.connects =
      (endpoint.run settings operations).endpoint.link.connects := rfl
  rw [level, counted]
  exact Nat.le_add_right ..

/-- A check of a dead connection closes its session, forgets the user and opens the next session. -/
theorem update_of_dead {now : Nat} (dead : endpoint.isDead settings now = true)
    (held : endpoint.channel = .session) :
    let checked := endpoint.update settings now
    checked.effects = [.sessionClosed, .opened ⟨endpoint.serial, endpoint.connects + 1⟩
        ⟨endpoint.ip, settings.vncPort, settings.frameInterval⟩] ∧
      checked.endpoint.state.current = .disconnected ∧
      checked.endpoint.username.current = none ∧ checked.endpoint.homeFolder.current = none ∧
      checked.endpoint.flags.current = none ∧ checked.endpoint.teacher.current = false := by
  intro checked
  have reopened := update_of_isDead dead
  simp only [disconnect, release, held, Reaction.andThen, connect, forgetUser] at reopened
  simp [checked, reopened, session, ip, Tracked.reset, Tracked.start]

/-- A check of a connection that is alive asks who is logged in, if it is ready. -/
theorem update_of_alive {now : Nat} (alive : endpoint.isDead settings now = false)
    (sound : endpoint.link.UpOverSession) :
    endpoint.update settings now =
      ⟨endpoint, if endpoint.state.current = .ready then [.sent .requestIdentity] else []⟩ := by
  unfold update
  by_cases ready : endpoint.state.current = .ready
  · -- A ready endpoint has a session to ask over.
    have held : endpoint.channel = .session := sound (isUp_of_ready ready)
    have heard : ¬ settings.liveTimeout < endpoint.silence now := by
      simpa [isDead, isReady, ready] using alive
    simp [isReady, ready, heard, send, held]
  · simp [isReady, ready]

/--
A check opens the connection anew exactly if it is ready and the machine was silent for longer than
the timeout, counted as its past says. The next session is one that was not opened before, and all
that was known of the user is forgotten. Any other check asks a ready machine who is logged in, and
changes nothing. While the clock does not go back, the checks that open the connection anew are more
than a timeout apart.
-/
theorem update_reopens_iff_silent {serial created : Nat} {machine : Machine}
    {prober : Option Prober} {fresh : Endpoint}
    (made : create serial created machine prober = .ok fresh) (settings : Settings)
    (operations : List Operation) :
    let past := fresh.run settings operations
    let endpoint := past.endpoint
    let episodes := fresh.episodes settings operations
    let since := Episode.silentSince settings created episodes.reverse
    let next : SessionId := ⟨serial, endpoint.connects + 1⟩
    (∀ now,
      let checked := endpoint.update settings now
      let reopens := checked.effects.any (·.opens)
      (reopens = true ↔ endpoint.state.current = .ready ∧ settings.liveTimeout < now - since) ∧
        (reopens = true →
          checked.effects = [.sessionClosed,
            .opened next ⟨endpoint.ip, settings.vncPort, settings.frameInterval⟩] ∧
          (∀ session request, .opened session request ∈ past.effects → session ≠ next) ∧
          checked.endpoint.state.current = .disconnected ∧
          checked.endpoint.username.current = none ∧
          checked.endpoint.homeFolder.current = none ∧
          checked.endpoint.flags.current = none ∧
          checked.endpoint.teacher.current = false) ∧
        (reopens = false → checked =
          ⟨endpoint, if endpoint.state.current = .ready then [.sent .requestIdentity] else []⟩)) ∧
      ((created :: operations.filterMap (·.time?)).Pairwise (· ≤ ·) →
        (episodes.filterMap (·.reopening?)).Pairwise fun earlier later =>
          earlier + settings.liveTimeout < later) := by
  intro past endpoint episodes since next
  -- The endpoint counts silence from the time that its past amounts to.
  have recalls := (recalls_of_create settings made).run operations
  rw [List.append_nil] at recalls
  have counted : endpoint.lastResponse = since := recalls.lastResponse_eq
  have sound : endpoint.link.UpOverSession := run_upOverSession made operations
  constructor
  · intro now checked reopens
    have exactly : reopens = true ↔ endpoint.isDead settings now = true := update_opens_iff
    refine ⟨?_, ?_, ?_⟩
    · rw [exactly, isDead_iff, counted]
    · intro opens
      have dead := exactly.mp opens
      have held : endpoint.channel = .session := sound (isUp_of_ready (isDead_iff.mp dead).1)
      have owned : endpoint.serial = serial := by
        obtain ⟨address, _, same⟩ := create_eq_ok_iff.mp made
        have kept := (run_moves settings fresh operations).serial_eq
        exact kept.trans (by rw [same]; rfl)
      obtain ⟨effects, forgotten⟩ := update_of_dead dead held
      rw [owned] at effects
      refine ⟨effects, ?_, forgotten⟩
      -- The sessions opened before have lower numbers.
      rintro session request opened rfl
      have numbered := connect_le_of_opened opened
      exact Nat.not_succ_le_self _ numbered
    · intro kept
      refine update_of_alive (Bool.eq_false_iff.mpr fun dead => ?_) sound
      rw [exactly.mpr dead] at kept
      contradiction
  · intro chronological
    have start : created ≤ fresh.lastResponse := by
      obtain ⟨address, _, rfl⟩ := create_eq_ok_iff.mp made
      exact Nat.le_refl created
    exact (reopenings_spaced operations start chronological).2

/-- A machine that fell silent twice is still asked a timeout after it came up, and not later. -/
theorem update_reopens_iff_silent_thrice :
    let settings : Settings := ⟨11100, 11400, 1000, 5000, 30000, 1000000000⟩
    let roster : Roster := ⟨.empty, .new ⟨[], false⟩⟩
    let machine : Machine := ⟨"cn=pc01", "pc01", ["10.0.0.11"], [], none, .linux⟩
    let fresh := idle 0 0 machine ⟨"10.0.0.11", none⟩
    let up (serial now : Nat) : Operation := .event now roster ⟨0, serial⟩ (.state .connected)
    let answer (serial now : Nat) : Operation :=
      .event now roster ⟨0, serial⟩ (.identity "pupil" "")
    let operations : List Operation := [.connect, up 1 10, up 1 20, answer 1 25, .update 30025,
      .update 30026, answer 1 30030, up 2 30100, up 2 30200, .update 90101, up 3 90200, up 3 90300]
    let endpoint := (fresh.run settings operations).endpoint
    let episodes := fresh.episodes settings operations
    create 0 0 machine none = .ok fresh ∧
      (0 :: operations.filterMap (·.time?)).Pairwise (· ≤ ·) ∧
      Episode.silentSince settings 0 episodes.reverse = 120200 ∧
      (endpoint.update settings 150200).effects = [.sent .requestIdentity] ∧
      (endpoint.update settings 150201).effects =
        [.sessionClosed, .opened ⟨0, 4⟩ ⟨"10.0.0.11", 11100, 1000⟩] ∧
      episodes.filterMap (·.reopening?) = [30026, 90101] ∧
      [30026, 90101].Pairwise fun earlier later => earlier + 30000 < later := by
  intro settings roster machine fresh up answer operations endpoint episodes
  have made : create 0 0 machine none = .ok fresh := rfl
  have chronological : (0 :: operations.filterMap (·.time?)).Pairwise (· ≤ ·) := by
    decide +kernel
  -- The last link came up at 90200, and the silence on it counts from a timeout after that.
  have counted : Episode.silentSince settings 0 episodes.reverse = 120200 := by decide +kernel
  have ready : (fresh.run settings operations).endpoint.state.current = .ready := by
    decide +kernel
  have times : episodes.filterMap (·.reopening?) = [30026, 90101] := by decide +kernel
  obtain ⟨checks, apart⟩ := update_reopens_iff_silent made settings operations
  refine ⟨made, chronological, counted, ?_, ?_, times, ?_⟩
  · obtain ⟨silent, _, asks⟩ := checks 150200
    have alive : (endpoint.update settings 150200).effects.any (·.opens) = false := by
      refine Bool.eq_false_iff.mpr fun opens => ?_
      have late := (silent.mp opens).2
      rw [counted] at late
      exact (by decide : ¬ 30000 < 150200 - 120200) late
    rw [asks alive, if_pos ready]
  · obtain ⟨silent, reopens, _⟩ := checks 150201
    have opens := silent.mpr ⟨ready, by rw [counted]; decide⟩
    rw [(reopens opens).1]
    decide +kernel
  · rw [← times]
    exact apart chronological

end Endpoint

end ComputerRoom
