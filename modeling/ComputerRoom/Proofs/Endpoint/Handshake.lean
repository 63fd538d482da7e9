import ComputerRoom.Proofs.Endpoint.Moves

/-!
Coming up twice makes a link ready: what an endpoint holds after its link was opened, and in which
state it is, are decided by the reports on the link alone.
-/

namespace ComputerRoom

/-- The connection state that reports lead to, counted from the opening of the link. -/
def Connection.afterReports (reports : List LinkStatus) : Connection :=
  match reports.getLast? with
  | none => .disconnected
  -- The first time a link comes up, only the session is layered on it.
  | some .connected => if reports.count .connected = 1 then .connected else .ready
  | some last => .ofLink last

/-- The state of the link that an event reports, if it reports one. -/
def Signal.linkStatus? : Signal → Option LinkStatus
  | .state status => some status
  | _ => none

/-- The report on the link of a session that an operation brings, if it brings one. -/
def Operation.report? (session : SessionId) : Operation → Option LinkStatus
  | .event _ _ tagged signal | .supervised _ _ tagged signal =>
    if tagged = session then signal.linkStatus? else none
  | .link _ status => some status
  | _ => none

/-- The time of an operation that looks at the clock. -/
def Operation.time? : Operation → Option Nat
  | .start now | .event now _ _ _ | .supervised now _ _ _ | .link now _ | .identity now _ _ _
  | .update now => some now
  | .connect | .close | .flags _ | .poll | .perform _ => none

/-- Whether an operation tells an endpoint of a session that its link is up. -/
def Operation.connects (session : SessionId) (operation : Operation) : Bool :=
  operation.report? session == some .connected

/-- The time at which an operation tells an endpoint of a session that its link is up. -/
def Operation.arrival? (session : SessionId) (operation : Operation) : Option Nat :=
  if operation.connects session then operation.time? else none

/-- Whether an effect is the notice that an endpoint became ready. -/
def Effect.isReadiness : Effect → Bool
  | .published (.connected _) => true
  | _ => false

namespace Episode

/-- Whether an episode brings a report on the link of a session. -/
def isReport (session : SessionId) (episode : Episode) : Bool :=
  (episode.operation.report? session).isSome

/-- Whether an endpoint became ready in an episode. -/
def readies (episode : Episode) : Bool :=
  !episode.before.isReady && episode.reaction.endpoint.isReady

/-- Whether the endpoint neither closes in an episode nor gives up its link. -/
def keepsLink (settings : Settings) (episode : Episode) : Bool :=
  match episode.operation with
  | .close => false
  | .update now => !episode.before.isDead settings now
  | _ => true

end Episode

/-- One more report decides the state, together with whether the link came up before. -/
theorem Connection.afterReports_append (reports : List LinkStatus) (last : LinkStatus) :
    Connection.afterReports (reports ++ [last]) =
      match last with
      | .connected => if reports.count .connected = 0 then .connected else .ready
      | last => .ofLink last := by
  -- The state is read off the last report, and the count includes it.
  cases last <;> simp [afterReports]

namespace Operation

variable {session : SessionId} {operation : Operation}

/-- An operation that brings a report looks at the clock. -/
theorem exists_time? {status : LinkStatus} (reported : operation.report? session = some status) :
    ∃ now, operation.time? = some now := by
  cases operation <;> first | exact ⟨_, rfl⟩ | contradiction

/-- That the link is up arrives at the time of the operation that tells it. -/
theorem arrival?_of_connected (reported : operation.report? session = some .connected) :
    operation.arrival? session = operation.time? := by
  simp [arrival?, connects, reported]

/-- Any other operation has nothing arrive. -/
theorem arrival?_of_ne_connected (other : operation.report? session ≠ some .connected) :
    operation.arrival? session = none := by
  simp [arrival?, connects, other]

end Operation

namespace Endpoint

/-- An endpoint whose link was opened as a session and has had some reports since. -/
structure Handshake (session : SessionId) (reports : List LinkStatus) (endpoint : Endpoint) :
    Prop where
  session_eq : endpoint.session = session
  channel_eq : endpoint.channel = if reports.count .connected = 0 then .transport else .session
  state_eq : endpoint.state.current = .afterReports reports

/-- What some episodes count for that bring news after the reports there were before. -/
structure Tally (session : SessionId) (reports news : List LinkStatus) (episodes : List Episode) :
    Prop where
  opened : min (reports.count .connected) 1 + (Episode.effects episodes).count .sessionOpened =
    min ((reports ++ news).count .connected) 1
  joined : min (reports.count .connected) 1 +
      (Episode.effects (episodes.filter (·.isReport session))).count .sessionOpened =
    min ((reports ++ news).count .connected) 1
  noticed : (Episode.effects episodes).countP (·.isReadiness) =
    (episodes.filter (·.isReport session)).countP (·.readies)

variable {settings : Settings} {session : SessionId} {reports : List LinkStatus}
  {endpoint : Endpoint}

/-- The link of a handshake is open. -/
theorem Handshake.channel_ne_closed (handshake : Handshake session reports endpoint) :
    endpoint.channel ≠ .closed := by
  -- Either a transport or a session is held.
  rw [handshake.channel_eq]
  split <;> simp

/-- An event that brings no report only talks. -/
theorem event_talks {now : Nat} {roster : Roster} {tagged : SessionId} {event : Signal}
    (unreported : (Operation.event now roster tagged event).report? endpoint.session = none) :
    endpoint.Talks (endpoint.operate settings (.event now roster tagged event)) := by
  -- An event of another session is dropped, and one of the current session reports no link.
  simp only [operate, handle]
  split
  · exact talks_silently rfl
  · rename_i current
    have tag : tagged = endpoint.session := by simpa using current
    cases event with
    | state state => simp [Operation.report?, Signal.linkStatus?, tag] at unreported
    | identity username homeFolder => exact takeIdentity_talks now _ username homeFolder endpoint
    | flags mask => exact takeFlags_talks mask endpoint

/-- An event that brings a report has the endpoint take it. -/
theorem event_report {now : Nat} {roster : Roster} {tagged : SessionId} {event : Signal}
    {state : LinkStatus}
    (reported : (Operation.event now roster tagged event).report? endpoint.session = some state) :
    endpoint.operate settings (.event now roster tagged event) =
      endpoint.takeLink settings now state := by
  -- The event is tagged with the current session, and its kind is settled by the report.
  simp only [Operation.report?, Option.ite_none_right_eq_some] at reported
  obtain ⟨tag, reported⟩ := reported
  cases event with
  | state status =>
    simp only [Signal.linkStatus?, Option.some.injEq] at reported
    simp [operate, handle, tag, reported]
  | identity | flags => simp [Signal.linkStatus?] at reported

/-- An operation that brings no report only talks if it neither opens the link nor gives it up. -/
theorem operate_talks {operation : Operation}
    (held : operation = .connect → endpoint.channel ≠ .closed)
    (unreported : operation.report? endpoint.session = none)
    (kept : Episode.keepsLink settings
      ⟨endpoint, operation, endpoint.operate settings operation⟩ = true) :
    endpoint.Talks (endpoint.operate settings operation) := by
  -- The operations that do more are those that report on the link or give it up.
  cases operation with
  | connect => exact connect_talks settings (held rfl)
  | start now => exact talks_silently (start_link now endpoint)
  | close => contradiction
  | event now roster tagged event => exact event_talks unreported
  | supervised now roster tagged event =>
    obtain ⟨same, talk⟩ := @event_talks settings endpoint now roster tagged event unreported
    rw [← operate_supervised_part _ _ _ _ _ _ Endpoint.link stop_link] at same
    rw [← operate_supervised_effects] at talk
    exact ⟨same, talk⟩
  | link now state => simp [Operation.report?] at unreported
  | identity now roster username homeFolder =>
    exact takeIdentity_talks now _ username homeFolder endpoint
  | flags mask => exact takeFlags_talks mask endpoint
  | update now => exact update_talks (by simpa [Episode.keepsLink] using kept)
  | poll => exact talks_silently rfl
  | perform order => exact perform_talks settings order endpoint

/-- An operation that brings a report does what taking that report does, and leaves its link. -/
theorem operate_report {operation : Operation} {status : LinkStatus}
    (reported : operation.report? endpoint.session = some status) :
    ∃ now, operation.time? = some now ∧
      (endpoint.operate settings operation).effects =
        (endpoint.takeLink settings now status).effects ∧
      (endpoint.operate settings operation).endpoint.link =
        (endpoint.takeLink settings now status).endpoint.link := by
  -- A report comes as an event, through supervision, or straight to the endpoint.
  cases operation with
  | event now roster tagged event =>
    rw [event_report reported]
    exact ⟨now, rfl, rfl, rfl⟩
  | supervised now roster tagged event =>
    have taken := @event_report settings endpoint now roster tagged event status reported
    rw [operate_supervised_effects, operate_supervised_part _ _ _ _ _ _ Endpoint.link stop_link,
      taken]
    exact ⟨now, rfl, rfl, rfl⟩
  | link now status' =>
    obtain rfl : status' = status := Option.some.inj reported
    exact ⟨now, rfl, rfl, rfl⟩
  | _ => simp [Operation.report?] at reported

/-- The tallies of two stretches of episodes add up. -/
theorem Tally.append {first second : List LinkStatus} {early late : List Episode}
    (before : Tally session reports first early)
    (after : Tally session (reports ++ first) second late) :
    Tally session reports (first ++ second) (early ++ late) := by
  -- The second stretch starts from the count at which the first one ended.
  obtain ⟨opened, joined, noticed⟩ := before
  obtain ⟨opened', joined', noticed'⟩ := after
  rw [List.append_assoc] at opened' joined'
  constructor
  · rw [Episode.effects_append, List.count_append]
    omega
  · rw [List.filter_append, Episode.effects_append, List.count_append]
    omega
  · rw [Episode.effects_append, List.countP_append, List.filter_append, List.countP_append]
    omega

/-- Talk carries a handshake on without counting for it. -/
theorem Handshake.talk {operation : Operation} {reaction : Reaction}
    (handshake : Handshake session reports endpoint)
    (unreported : operation.report? session = none) (talks : endpoint.Talks reaction) :
    Handshake session reports reaction.endpoint ∧
      Tally session reports [] [⟨endpoint, operation, reaction⟩] := by
  -- Talk neither joins a session nor tells that the endpoint is ready.
  obtain ⟨kept, talk⟩ := talks
  have sessions : reaction.effects.count .sessionOpened = 0 :=
    List.count_eq_zero.mpr fun member => talk _ member
  have notices : reaction.effects.countP (·.isReadiness) = 0 := by
    refine List.countP_eq_zero.mpr fun effect member => ?_
    have said := talk effect member
    unfold Effect.isReadiness
    split
    · exact said.elim
    · simp
  have silent : Episode.isReport session ⟨endpoint, operation, reaction⟩ = false := by
    simp [Episode.isReport, unreported]
  -- The link stays as it is, so all that is known of it does.
  constructor
  · exact ⟨(congrArg Link.session kept).trans handshake.session_eq,
      (congrArg Link.channel kept).trans handshake.channel_eq,
      (congrArg Link.state kept).trans handshake.state_eq⟩
  · constructor <;> simp [silent, sessions, notices]

/-- A report that the link is down carries a handshake on, and counts for nothing. -/
theorem Handshake.fall {operation : Operation} {status : LinkStatus} {now : Nat}
    {reaction : Reaction} (handshake : Handshake session reports endpoint)
    (reported : operation.report? session = some status) (down : status ≠ .connected)
    (does : reaction.effects = (endpoint.takeLink settings now status).effects)
    (leaves : reaction.endpoint.link = (endpoint.takeLink settings now status).endpoint.link) :
    Handshake session (reports ++ [status]) reaction.endpoint ∧
      Tally session reports [status] [⟨endpoint, operation, reaction⟩] := by
  -- Only the state of the link changes, and to one that is neither up nor ready.
  obtain ⟨named, held, told⟩ := handshake
  rw [takeLink_of_ne_connected settings now endpoint down] at does leaves
  have link := leaves.trans (takeLinkDown_link (.ofLink status) endpoint)
  have state : reaction.endpoint.state.current = .ofLink status := congrArg Link.state link
  have uncounted : (reports ++ [status]).count .connected = reports.count .connected := by
    simp [down]
  have unready : reaction.endpoint.isReady = false := by
    have fallen := ofLink_isUp down
    rw [isReady, state]
    cases same : Connection.ofLink status <;> simp_all [Connection.isUp]
  have loud : Episode.isReport session ⟨endpoint, operation, reaction⟩ = true := by
    simp [Episode.isReport, reported]
  constructor
  · refine ⟨(congrArg Link.session link).trans named, ?_, ?_⟩
    · rw [uncounted]
      exact (congrArg Link.channel link).trans held
    · rw [state, Connection.afterReports_append]
      cases status <;> simp_all
  · constructor <;> simp [Episode.readies, loud, uncounted, unready, does]

/-- A report that the link is up carries a handshake on, one step nearer to being ready. -/
theorem Handshake.rise {operation : Operation} {now : Nat} {reaction : Reaction}
    (handshake : Handshake session reports endpoint)
    (reported : operation.report? session = some .connected)
    (does : reaction.effects = (endpoint.takeLinkUp settings now).effects)
    (leaves : reaction.endpoint.link = (endpoint.takeLinkUp settings now).endpoint.link) :
    Handshake session (reports ++ [.connected]) reaction.endpoint ∧
      Tally session reports [.connected] [⟨endpoint, operation, reaction⟩] := by
  -- What coming up means is decided by whether the link came up before.
  have loud : Episode.isReport session ⟨endpoint, operation, reaction⟩ = true := by
    simp [Episode.isReport, reported]
  obtain ⟨named, held, told⟩ := handshake
  have counted : (reports ++ [LinkStatus.connected]).count .connected =
      reports.count .connected + 1 := by simp
  have after := Connection.afterReports_append reports .connected
  have goes : reaction.endpoint.isReady = (reaction.endpoint.link.state == .ready) := rfl
  by_cases first : reports.count .connected = 0
  · -- The first time, a session is layered on the transport, whether or not anybody is asked.
    rw [if_pos first] at held
    obtain ⟨joined, asks⟩ := takeLinkUp_of_transport settings now held
    have link := leaves.trans joined
    have opens : reaction.effects.count .sessionOpened = 1 ∧
        reaction.effects.countP (·.isReadiness) = 0 := by
      rw [does, asks]
      split <;> simp [Effect.isReadiness]
    constructor
    · exact ⟨(congrArg Link.session link).trans named,
        (congrArg Link.channel link).trans (by simp),
        (congrArg Link.state link).trans (by simp [after, first])⟩
    · constructor <;> simp [Episode.readies, goes, link, loud, counted, first, opens]
  · -- After that the session is there, and the link is ready from now on.
    rw [if_neg first] at held
    obtain ⟨readied, tells⟩ := takeLinkUp_of_session settings now held
    have link := leaves.trans readied
    have reached : min (reports.count .connected) 1 = min (reports.count .connected + 1) 1 := by
      omega
    constructor
    · exact ⟨(congrArg Link.session link).trans named,
        (congrArg Link.channel link).trans (by simp [held]),
        (congrArg Link.state link).trans (by simp [after, first])⟩
    · -- It is told that the endpoint is ready if it was not.
      cases ready : endpoint.isReady <;> constructor <;>
        simp [Episode.readies, Effect.isReadiness, goes, link, loud, counted, reached, does, tells,
          ready]

/-- Whatever an episode brings that keeps the link, a handshake goes on. -/
theorem Handshake.step {operation : Operation} (handshake : Handshake session reports endpoint)
    (kept : Episode.keepsLink settings
      ⟨endpoint, operation, endpoint.operate settings operation⟩ = true) :
    Handshake session (reports ++ (operation.report? session).toList)
        (endpoint.operate settings operation).endpoint ∧
      Tally session reports (operation.report? session).toList
        [⟨endpoint, operation, endpoint.operate settings operation⟩] := by
  -- An operation either brings a report, which the endpoint takes, or is talk.
  have named := handshake.session_eq
  cases reported : operation.report? session with
  | none =>
    have talks := operate_talks (fun _ => handshake.channel_ne_closed) (named ▸ reported) kept
    simpa using handshake.talk reported talks
  | some status =>
    obtain ⟨now, _, does, leaves⟩ := operate_report (named ▸ reported)
    by_cases up : status = .connected
    · subst up
      exact handshake.rise reported does leaves
    · exact handshake.fall reported up does leaves

/-- Over a run that keeps the link, a handshake goes on with all the reports of the run. -/
theorem Handshake.run (handshake : Handshake session reports endpoint)
    (operations : List Operation)
    (kept : ∀ episode ∈ endpoint.episodes settings operations, episode.keepsLink settings = true) :
    Handshake session (reports ++ operations.filterMap (·.report? session))
        (endpoint.run settings operations).endpoint ∧
      Tally session reports (operations.filterMap (·.report? session))
        (endpoint.episodes settings operations) := by
  -- Each operation goes on from the reports that there were before it.
  induction operations generalizing endpoint reports with
  | nil =>
    refine ⟨by simpa using handshake, ?_⟩
    constructor <;> simp [episodes]
  | cons operation rest ih =>
    obtain ⟨first, later⟩ := List.forall_mem_cons.mp kept
    obtain ⟨next, counted⟩ := handshake.step first
    obtain ⟨final, tally⟩ := ih next later
    have news : (operation :: rest).filterMap (·.report? session) =
        (operation.report? session).toList ++ rest.filterMap (·.report? session) := by
      cases reported : operation.report? session <;> simp [reported]
    rw [news, ← List.append_assoc]
    exact ⟨final, counted.append tally⟩

/-- A report on the link has a machine asked who is there if it arrives first, and in time. -/
theorem Handshake.asked (handshake : Handshake session reports endpoint) (settings : Settings)
    (operation : Operation) :
    (Episode.effects ([⟨endpoint, operation, endpoint.operate settings operation⟩].filter
        fun episode : Episode => episode.isReport session)).count (.sent .requestIdentity) =
      if reports.count .connected = 0 then
        (operation.arrival? session).toList.countP (!settings.outlastsClock ·) else 0 := by
  -- How often the link came up before tells the channel, and the channel what is done now.
  obtain ⟨named, held, _⟩ := handshake
  cases reported : operation.report? session with
  | none =>
    have nothing : operation.arrival? session = none :=
      Operation.arrival?_of_ne_connected (by simp [reported])
    simp [Episode.isReport, reported, nothing]
  | some status =>
    obtain ⟨now, timed, does, _⟩ := @operate_report settings endpoint _ _ (named ▸ reported)
    by_cases up : status = .connected
    · -- Only on a bare transport does the link come up for the first time.
      subst up
      have arrives := (Operation.arrival?_of_connected reported).trans timed
      have taken : (endpoint.operate settings operation).effects =
          (endpoint.takeLinkUp settings now).effects := does
      by_cases first : reports.count .connected = 0
      · rw [if_pos first] at held
        rw [(takeLinkUp_of_transport settings now held).2] at taken
        cases late : settings.outlastsClock now <;>
          simp [Episode.isReport, reported, arrives, taken, first, late]
      · rw [if_neg first] at held
        rw [(takeLinkUp_of_session settings now held).2] at taken
        cases ready : endpoint.isReady <;>
          simp [Episode.isReport, reported, taken, first, ready]
    · -- A link that goes down has nothing to ask.
      have nothing : operation.arrival? session = none :=
        Operation.arrival?_of_ne_connected (by simpa [reported] using up)
      rw [takeLink_of_ne_connected settings now endpoint up] at does
      have silent : (endpoint.operate settings operation).effects = [] := does
      simp [Episode.isReport, reported, silent, nothing]

/-- Over a run that keeps the link, a machine is asked at its first arrival, if that is in time. -/
theorem Handshake.asks (handshake : Handshake session reports endpoint)
    (operations : List Operation)
    (kept : ∀ episode ∈ endpoint.episodes settings operations, episode.keepsLink settings = true) :
    (Episode.effects ((endpoint.episodes settings operations).filter
        fun episode : Episode => episode.isReport session)).count (.sent .requestIdentity) =
      if reports.count .connected = 0 then
        ((operations.filterMap (·.arrival? session)).take 1).countP (!settings.outlastsClock ·)
      else 0 := by
  -- The first arrival is that of the first operation that brings one, and no other one counts.
  induction operations generalizing endpoint reports with
  | nil => simp [episodes]
  | cons operation rest ih =>
    obtain ⟨first, later⟩ := List.forall_mem_cons.mp kept
    have now := handshake.asked settings operation
    have rests := ih (handshake.step first).1 later
    rw [episodes, ← List.singleton_append, List.filter_append, Episode.effects_append,
      List.count_append, now, rests]
    by_cases up : operation.report? session = some .connected
    · obtain ⟨time, timed⟩ := Operation.exists_time? up
      simp [Operation.arrival?_of_connected up, up, timed]
    · cases reported : operation.report? session <;>
        simp_all [Operation.arrival?_of_ne_connected up]

/-- The reports that a link is up are as many as the arrivals. -/
theorem count_connected (session : SessionId) (operations : List Operation) :
    (operations.filterMap (·.report? session)).count .connected =
      (operations.filterMap (·.arrival? session)).length := by
  induction operations with
  | nil => rfl
  | cons operation rest ih =>
    by_cases up : operation.report? session = some .connected
    · obtain ⟨time, timed⟩ := Operation.exists_time? up
      simp [Operation.arrival?_of_connected up, up, timed, ih]
    · have nothing := Operation.arrival?_of_ne_connected up
      cases reported : operation.report? session <;> simp_all

/--
The reports on a link decide what is held of it and in which state it is, from the moment it was
opened: the first time it comes up a session is layered on the transport, and each time it comes up
after that makes the endpoint ready, which is told once. The session asks at once who is logged in,
unless a timeout from then on would end after the clock does: then nobody is asked.
-/
theorem link_after_reports (settings : Settings) {endpoint : Endpoint}
    (closed : endpoint.channel = .closed) (down : endpoint.state.current = .disconnected)
    (operations : List Operation)
    (kept : ∀ episode ∈ (endpoint.connect settings).endpoint.episodes settings operations,
      episode.keepsLink settings = true) :
    let opened := (endpoint.connect settings).endpoint
    let reports := operations.filterMap (·.report? opened.session)
    let arrivals := operations.filterMap (·.arrival? opened.session)
    let final := (opened.run settings operations).endpoint
    let episodes := opened.episodes settings operations
    let linkEpisodes := episodes.filter (·.isReport opened.session)
    final.channel = (if reports.count .connected = 0 then .transport else .session) ∧
      final.state.current = .afterReports reports ∧
      (Episode.effects episodes).count .sessionOpened = min (reports.count .connected) 1 ∧
      (Episode.effects linkEpisodes).count .sessionOpened = min (reports.count .connected) 1 ∧
      (Episode.effects linkEpisodes).count (.sent .requestIdentity) =
        (if ∀ first ∈ arrivals.head?, first + settings.liveTimeout ≤ settings.clockEnd then
          min (reports.count .connected) 1 else 0) ∧
      (Episode.effects episodes).countP (·.isReadiness) =
        linkEpisodes.countP (·.readies) := by
  intro opened reports arrivals final episodes linkEpisodes
  -- The link has just been opened, so nothing was reported on it yet.
  have start : Handshake opened.session [] opened := by
    have bare : opened.channel = .transport := by simp [opened, connect, closed]
    have fallen : opened.state.current = .disconnected := by simp [opened, connect, closed, down]
    exact ⟨rfl, by simpa using bare, by simpa [Connection.afterReports] using fallen⟩
  obtain ⟨⟨_, channel, state⟩, ⟨sessions, joined, noticed⟩⟩ := start.run operations kept
  have asked := start.asks operations kept
  simp only [List.nil_append, List.count_nil, Nat.zero_min, Nat.zero_add, if_true] at *
  refine ⟨channel, state, sessions, joined, asked.trans ?_, noticed⟩
  -- The machine arrives as often as its link comes up.
  have counted : reports.count .connected = arrivals.length := count_connected _ operations
  rw [counted]
  change (arrivals.take 1).countP _ = _
  cases arrivals with
  | nil => simp
  | cons first later =>
    by_cases timely : first + settings.liveTimeout ≤ settings.clockEnd
    · simp [Settings.outlastsClock, timely]
    · simp [Settings.outlastsClock, timely, Nat.lt_of_not_le timely]

/-- A link that fails, comes up, drops, comes up again, fails and recovers is ready twice. -/
theorem link_after_reports_recovery :
    let settings : Settings := ⟨11100, 11400, 1000, 5000, 30000, 1000000000⟩
    let roster : Roster := ⟨.empty, .new ⟨[], false⟩⟩
    let machine : Machine := ⟨"cn=pc01", "pc01", ["10.0.0.11"], [], none, .linux⟩
    let endpoint := idle 0 0 machine ⟨"10.0.0.11", none⟩
    let session : SessionId := ⟨0, 1⟩
    let operations : List Operation := [
      .event 10 roster session (.state (.failed .unreachable)),
      .event 20 roster session (.state .connected), .connect,
      .event 30 roster session (.identity "anna" "/home/anna"), .update 40,
      .event 50 roster session (.state .disconnected), .poll,
      .event 60 roster session (.state .connected), .update 70, .perform .lockScreen,
      .event 80 roster session (.state .connected), .flags (.ofNat 8),
      .event 90 roster session (.state (.failed .authentication)),
      .event 95 roster ⟨0, 0⟩ (.state .connected),
      .supervised 99 roster session (.state .connected)]
    let opened := (endpoint.connect settings).endpoint
    let episodes := opened.episodes settings operations
    endpoint.channel = .closed ∧ endpoint.state.current = .disconnected ∧
      (∀ episode ∈ episodes, episode.keepsLink settings = true) ∧
      (opened.run settings operations).endpoint.channel = .session ∧
      (opened.run settings operations).endpoint.state.current = .ready ∧
      (Episode.effects episodes).count .sessionOpened = 1 ∧
      (Episode.effects (episodes.filter (·.isReport opened.session))).count
        (.sent .requestIdentity) = 1 ∧
      (Episode.effects episodes).countP (·.isReadiness) = 2 := by
  intro settings roster machine endpoint session operations opened episodes
  -- The counts are those that the theorem reads off the reports, not off the effects.
  have kept : ∀ episode ∈ episodes, episode.keepsLink settings = true := by decide +kernel
  obtain ⟨channel, state, sessions, _, asked, noticed⟩ :=
    @link_after_reports settings endpoint rfl rfl operations kept
  refine ⟨rfl, rfl, kept, ?_, ?_, ?_, ?_, ?_⟩
  · rw [channel]
    decide +kernel
  · rw [state]
    decide +kernel
  · rw [sessions]
    decide +kernel
  · rw [asked]
    decide +kernel
  · rw [noticed]
    decide +kernel

/--
Where a timeout is as long as a file can give it, a machine whose link comes up is joined by a
session and is not asked who is logged in, however its endpoint hears of the link.
-/
theorem last_timeout_asks_nobody :
    let config := { Config.standard with liveness := ⟨1, 9223372036854775807⟩ }
    let settings := Settings.ofConfig config
    let roster : Roster := ⟨.empty, .new ⟨[], false⟩⟩
    let machine : Machine := ⟨"cn=pc01", "pc01", ["10.0.0.11"], [], none, .linux⟩
    let endpoint := idle 0 0 machine ⟨"10.0.0.11", none⟩
    let opened := (endpoint.connect settings).endpoint
    endpoint.channel = .closed ∧ endpoint.state.current = .disconnected ∧
      ∀ arrival ∈ [Operation.event 5000 roster opened.session (.state .connected),
          .supervised 5000 roster opened.session (.state .connected), .link 5000 .connected],
        arrival.report? opened.session = some .connected ∧
          Episode.keepsLink settings ⟨opened, arrival, opened.operate settings arrival⟩ = true ∧
          (opened.operate settings arrival).endpoint.channel = .session ∧
          (opened.operate settings arrival).effects = [.sessionOpened] := by
  decide +kernel

end Endpoint

end ComputerRoom
