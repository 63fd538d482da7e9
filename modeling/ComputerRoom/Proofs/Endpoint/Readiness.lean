import ComputerRoom.Proofs.Endpoint.Liveness

/-!
How much time a machine gets from when its endpoint becomes ready: becoming ready is not hearing of
the machine, so silence goes on being counted from before.
-/

namespace ComputerRoom

namespace Endpoint

variable {settings : Settings} {endpoint : Endpoint} {operation : Operation}

/-- What brings no report on the link of an endpoint that is not ready does not make it ready. -/
theorem unready_of_unreported (unready : endpoint.isReady = false)
    (unreported : operation.report? endpoint.session = none) :
    (endpoint.operate settings operation).endpoint.isReady = false := by
  -- Talk leaves the state of the link alone.
  have of_talks : endpoint.Talks (endpoint.operate settings operation) →
      (endpoint.operate settings operation).endpoint.isReady = false := by
    intro talks
    have same : (endpoint.operate settings operation).endpoint.state.current =
        endpoint.state.current := congrArg Link.state talks.1
    rwa [isReady, same]
  -- What is no report is talk, unless it opens the link or gives it up.
  cases operation with
  | connect =>
    simp only [operate, connect]
    split <;> exact unready
  | close =>
    have closed : endpoint.close.endpoint.state.current = .disconnected :=
      congrArg Link.state (disconnect_link endpoint.stop)
    rw [operate, isReady, closed]
    rfl
  | update now =>
    -- A connection is found dead only while it is ready.
    have alive : endpoint.isDead settings now = false := by simp [isDead, unready]
    exact of_talks (operate_talks (by simp) unreported (by simp [Episode.keepsLink, alive]))
  | _ => exact of_talks (operate_talks (by simp) unreported rfl)

/-- A report makes an endpoint ready only if it is that the link of a kept session is up again. -/
theorem takeLink_readies {now : Nat} {status : LinkStatus} (unready : endpoint.isReady = false)
    (ready : (endpoint.takeLink settings now status).endpoint.isReady = true) :
    endpoint.channel = .session ∧ endpoint.takeLink settings now status =
      ⟨{ endpoint with state := endpoint.state.set .ready },
        [.published (.connected endpoint.name)]⟩ := by
  have reached : (endpoint.takeLink settings now status).endpoint.link.state = .ready :=
    eq_of_beq ready
  -- A session that is joined only now is up but not ready, so it was there before.
  by_cases up : status = .connected
  · -- Without a session, the link is left as it is or joined, and neither is to be ready.
    subst up
    cases held : endpoint.channel with
    | closed =>
      have still : endpoint.takeLinkUp settings now = ⟨endpoint, []⟩ := by simp [takeLinkUp, held]
      rw [takeLink, Connection.ofLink, still, unready] at ready
      contradiction
    | transport =>
      have joined := congrArg Link.state (takeLinkUp_of_transport settings now held).1
      have same := reached.symm.trans joined
      contradiction
    | session => exact ⟨rfl, by simp [takeLink, Connection.ofLink, takeLinkUp, held, unready]⟩
  · -- Any other report leads to a state that is not even up.
    have down := ofLink_isUp up
    rw [takeLink_of_ne_connected settings now endpoint up, takeLinkDown_link] at reached
    have same : Connection.ofLink status = .ready := reached
    rw [same] at down
    contradiction

/-- An operation that brings a report on the link of a session has the endpoint take it. -/
theorem operate_report_of_session {status : LinkStatus} (held : endpoint.channel = .session)
    (reported : operation.report? endpoint.session = some status) :
    ∃ now, endpoint.operate settings operation = endpoint.takeLink settings now status := by
  cases operation with
  | event now roster tagged event => exact ⟨now, event_report reported⟩
  | supervised now roster tagged event =>
    -- Only the joining of a session can end supervision.
    have unbroken : endpoint.operate settings (.supervised now roster tagged event) =
        endpoint.operate settings (.event now roster tagged event) := by
      simp [operate, World.supervise, breaksOff, held]
    exact ⟨now, unbroken.trans (event_report reported)⟩
  | link now status' =>
    obtain rfl : status' = status := Option.some.inj reported
    exact ⟨now, rfl⟩
  | _ => simp [Operation.report?] at reported

/-- Becoming ready is announced, and changes nothing but the state of the connection. -/
theorem operate_of_readies
    (readies : Episode.readies ⟨endpoint, operation, endpoint.operate settings operation⟩ = true) :
    endpoint.operate settings operation =
      ⟨{ endpoint with state := endpoint.state.set .ready },
        [.published (.connected endpoint.name)]⟩ := by
  simp only [Episode.readies, Bool.and_eq_true, Bool.not_eq_true'] at readies
  obtain ⟨unready, ready⟩ := readies
  -- Only a report can have made the endpoint ready, and only if there is a session already.
  cases reported : operation.report? endpoint.session with
  | none =>
    rw [unready_of_unreported unready reported] at ready
    contradiction
  | some status =>
    obtain ⟨now, _, _, leaves⟩ := operate_report reported
    have reached : (endpoint.takeLink settings now status).endpoint.isReady = true := by
      rw [← ready]
      exact (congrArg (fun link : Link => link.state == .ready) leaves).symm
    obtain ⟨held, _⟩ := takeLink_readies unready reached
    obtain ⟨time, taken⟩ := operate_report_of_session held reported
    rw [taken] at ready ⊢
    exact (takeLink_readies unready ready).2

/-- Over a run from some time on, silence is never counted from before that time. -/
theorem run_lastResponse_ge {earliest : Nat} {operations : List Operation}
    (counted : earliest ≤ endpoint.lastResponse)
    (later : ∀ now ∈ operations.filterMap (·.time?), earliest ≤ now) :
    earliest ≤ (endpoint.run settings operations).endpoint.lastResponse := by
  -- Each operation goes on with the same bound, from the endpoint that the one before it left.
  induction operations generalizing endpoint with
  | nil => exact counted
  | cons operation rest ih =>
    have timed : ∀ now, operation.time? = some now → earliest ≤ now := fun now time =>
      later now (List.mem_filterMap.mpr ⟨operation, List.mem_cons_self, time⟩)
    refine ih (operate_lastResponse_ge counted timed) fun now member => later now ?_
    exact ((List.sublist_cons_self operation rest).filterMap _).subset member

/-- A check closes the session exactly if it finds the connection dead. -/
theorem update_closes_iff {now : Nat} (sound : endpoint.link.UpOverSession) :
    .sessionClosed ∈ (endpoint.update settings now).effects ↔
      endpoint.isDead settings now = true := by
  cases dead : endpoint.isDead settings now with
  | true =>
    -- A connection that is found dead is ready, so that there is a session to close.
    have held : endpoint.channel = .session := sound (isUp_of_ready (isDead_iff.mp dead).1)
    simp [(update_of_dead dead held).1]
  | false =>
    -- A connection that is alive is asked at most.
    rw [update_of_alive dead sound]
    split <;> simp

/--
A check right after an endpoint became ready closes its session exactly if the timeout has passed
since the time from which silence was counted before, no matter when the endpoint became ready. So a
machine is left a full timeout from then on, whatever happens in between and however the clock goes
on, exactly if silence was not counted from before then.
-/
theorem full_timeout_iff {serial created : Nat} {machine : Machine} {prober : Option Prober}
    {fresh : Endpoint} (made : create serial created machine prober = .ok fresh)
    (settings : Settings) (early : List Operation) {enter : Operation} {entered : Nat} :
    let before := (fresh.run settings early).endpoint
    let since := Episode.silentSince settings created (fresh.episodes settings early).reverse
    let entry : Episode := ⟨before, enter, before.operate settings enter⟩
    let ready := entry.reaction.endpoint
    enter.time? = some entered → entry.readies = true →
      (∀ now, .sessionClosed ∈ (ready.update settings now).effects ↔
        settings.liveTimeout < now - since) ∧
      ((∀ late now,
        ((enter :: late ++ [Operation.update now]).filterMap (·.time?)).Pairwise (· ≤ ·) →
        (∀ episode ∈ ready.episodes settings late, episode.readies = false) →
        .sessionClosed ∈ ((ready.run settings late).endpoint.update settings now).effects →
        entered + settings.liveTimeout < now) ↔ entered ≤ since) := by
  intro before since entry ready timed readies
  -- Becoming ready leaves the time alone from which silence is counted.
  have recalls := (recalls_of_create settings made).run early
  rw [List.append_nil] at recalls
  have heard : before.lastResponse = since := recalls.lastResponse_eq
  have enters := operate_of_readies readies
  have counted : ready.lastResponse = since := by
    rw [← heard]
    exact congrArg (·.endpoint.lastResponse) enters
  have reached : ready.state.current = .ready := by
    simp only [ready, entry, enters, Tracked.set_current]
  have sound : ∀ late, (ready.run settings late).endpoint.link.UpOverSession := by
    -- What comes after the entry goes on with the run from the creation.
    intro late
    have whole : (fresh.run settings (early ++ enter :: late)).endpoint.link.UpOverSession :=
      run_upOverSession made _
    rw [run_append] at whole
    exact whole
  have closes : ∀ now, .sessionClosed ∈ (ready.update settings now).effects ↔
      settings.liveTimeout < now - since := by
    intro now
    have finds := @update_closes_iff settings ready now (sound [])
    rw [finds, isDead_iff, counted, and_iff_right reached]
  refine ⟨closes, ?_, ?_⟩
  · -- The first check that finds the machine silent would come too early.
    intro full
    let now := max entered (since + settings.liveTimeout + 1)
    have chronological : ([enter, Operation.update now].filterMap (·.time?)).Pairwise (· ≤ ·) := by
      have ordered : entered ≤ now := Nat.le_max_left ..
      have checked : (Operation.update now).time? = some now := rfl
      rw [List.filterMap_cons_some timed, List.filterMap_cons_some checked]
      simpa using ordered
    have late : settings.liveTimeout < now - since := by omega
    have granted := full [] now chronological (by simp [episodes]) ((closes now).mpr late)
    omega
  · -- Nothing later has silence counted from before the time of becoming ready.
    intro fair late now chronological _ closed
    rw [List.cons_append, List.filterMap_cons_some timed, List.filterMap_append] at chronological
    have after := (List.pairwise_cons.mp chronological).1
    have bounded : entered ≤ (ready.run settings late).endpoint.lastResponse :=
      run_lastResponse_ge (counted ▸ fair) fun time member =>
        after time (List.mem_append_left _ member)
    have silent := (isDead_iff.mp ((update_closes_iff (sound late)).mp closed)).2
    omega

/--
A machine that answers right after it became ready, and never again, is left the timeout from then
on: a check at its very end goes by, and one right after it closes the session.
-/
theorem full_timeout_iff_answered :
    let settings : Settings := ⟨11100, 11400, 1000, 5000, 10000, 1000000000⟩
    let roster : Roster := ⟨.empty, .new ⟨[], false⟩⟩
    let machine : Machine := ⟨"cn=pc01", "pc01", ["10.0.0.11"], [], none, .linux⟩
    let fresh := idle 0 0 machine ⟨"10.0.0.11", none⟩
    let event (now : Nat) (signal : Signal) : Operation := .event now roster ⟨0, 1⟩ signal
    let early : List Operation := [.connect, event 10 (.state .connected)]
    let before := (fresh.run settings early).endpoint
    let enter := event 20 (.state .connected)
    let ready := (before.operate settings enter).endpoint
    let late : List Operation := [event 30 (.identity "pupil" ""), .update 10030]
    create 0 0 machine none = .ok fresh ∧ enter.time? = some 20 ∧
      Episode.readies ⟨before, enter, before.operate settings enter⟩ = true ∧
      Episode.silentSince settings 0 (fresh.episodes settings early).reverse = 10010 ∧
      ((enter :: late ++ [Operation.update 10031]).filterMap (·.time?)).Pairwise (· ≤ ·) ∧
      .sessionClosed ∈ ((ready.run settings late).endpoint.update settings 10031).effects ∧
      20 + settings.liveTimeout < 10031 := by
  intro settings roster machine fresh event early before enter ready late
  have made : create 0 0 machine none = .ok fresh := rfl
  have timed : enter.time? = some 20 := rfl
  have readies : Episode.readies ⟨before, enter, before.operate settings enter⟩ = true := by
    decide +kernel
  have since : Episode.silentSince settings 0 (fresh.episodes settings early).reverse = 10010 := by
    decide +kernel
  have chronological : ((enter :: late ++ [Operation.update 10031]).filterMap (·.time?)).Pairwise
      (· ≤ ·) := by
    decide +kernel
  have once : ∀ episode ∈ ready.episodes settings late, episode.readies = false := by
    decide +kernel
  have closed : .sessionClosed ∈
      ((ready.run settings late).endpoint.update settings 10031).effects := by
    decide +kernel
  obtain ⟨_, exactly⟩ := full_timeout_iff made settings early timed readies
  -- Silence counted from 10010 when the endpoint became ready at 20, so no time was lost.
  have fair : 20 ≤ Episode.silentSince settings 0 (fresh.episodes settings early).reverse := by
    rw [since]
    decide
  exact ⟨made, timed, readies, since, chronological, closed,
    exactly.mpr fair late 10031 chronological once closed⟩

/--
A machine that comes back a minute after its last answer, with its session kept, is left no time at
all: the first check after that closes the session.
-/
theorem outage_closes_session :
    let settings : Settings := ⟨11100, 11400, 1000, 5000, 10000, 1000000000⟩
    let roster : Roster := ⟨.empty, .new ⟨[], false⟩⟩
    let machine : Machine := ⟨"cn=pc01", "pc01", ["10.0.0.11"], [], none, .linux⟩
    let fresh := idle 0 0 machine ⟨"10.0.0.11", none⟩
    let event (now : Nat) (signal : Signal) : Operation := .event now roster ⟨0, 1⟩ signal
    let early : List Operation := [.connect, event 0 (.state .connected),
      event 0 (.state .connected), event 0 (.identity "pupil" ""), event 0 (.state .disconnected)]
    let before := (fresh.run settings early).endpoint
    let enter := event 60000 (.state .connected)
    let ready := (before.operate settings enter).endpoint
    create 0 0 machine none = .ok fresh ∧
      ((early ++ [enter, .update 61000]).filterMap (·.time?)).Pairwise (· ≤ ·) ∧
      enter.time? = some 60000 ∧
      Episode.readies ⟨before, enter, before.operate settings enter⟩ = true ∧
      (ready.update settings 61000).effects =
        [.sessionClosed, .opened ⟨0, 2⟩ ⟨"10.0.0.11", 11100, 1000⟩] ∧
      ¬ 60000 + settings.liveTimeout < 61000 := by
  intro settings roster machine fresh event early before enter ready
  refine ⟨rfl, ?_, rfl, ?_, ?_, ?_⟩ <;> decide +kernel

end Endpoint

end ComputerRoom
