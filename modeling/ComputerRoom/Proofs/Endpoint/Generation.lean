import ComputerRoom.Proofs.Endpoint.Moves

/-!
Late events of a session that was let go of: they are dropped once the next transport is opened, and
not before.
-/

namespace ComputerRoom.Endpoint

/-- Whether every event of a session is dropped, whenever it comes and whoever is known then. -/
def Discards (settings : Settings) (session : SessionId) (endpoint : Endpoint) : Prop :=
  ∀ now roster event,
    endpoint.handle settings now roster session event = ⟨⟨endpoint, []⟩, roster⟩

variable {settings : Settings} {endpoint : Endpoint} {session : SessionId}

/-- An answer about the user counts as a response, even if nobody is logged in. -/
@[simp] theorem takeIdentity_lastResponse (now : Nat) (teaches : Bool)
    (username homeFolder : String) (endpoint : Endpoint) :
    (endpoint.takeIdentity now teaches username homeFolder).endpoint.lastResponse = now := by
  -- Asking for flags and telling followers leave the endpoint as it is.
  have asks : ∀ (informed : Endpoint) (asking : Bool),
      (if asking then informed.send [.requestFlags] else ⟨informed, []⟩).endpoint = informed := by
    intro informed asking
    cases asking <;> simp
  unfold takeIdentity
  by_cases same : (endpoint.username.current == nonEmpty? username) = true
  · simp only [if_pos same, asks]
  · simp only [if_neg same, asks]

/-- An endpoint drops the events of every session but its current one, and of no other. -/
theorem discards_iff_ne : endpoint.Discards settings session ↔ session ≠ endpoint.session := by
  constructor
  · intro discards current
    -- An answer that comes later than the last response is taken as one.
    let later := endpoint.lastResponse + 1
    have dropped := discards later ⟨.empty, .new ⟨[], false⟩⟩ (.identity "" "")
    have kept := congrArg (·.reaction.endpoint.lastResponse) dropped
    simp [handle, current, identify, takeIdentity_lastResponse, later] at kept
  · intro other now roster event
    simp [handle, other]

/-- The session of a transport is the current one until the next transport is opened. -/
theorem session_eq_iff_unopened {operations : List Operation} {past since : List Effect}
    {request : TransportRequest}
    (opening : (endpoint.run settings operations).effects =
      past ++ .opened session request :: since) :
    (endpoint.run settings operations).endpoint.session = session ↔
      since.countP (·.opens) = 0 := by
  -- The link goes on from the session, and counts each opening after it.
  have moves := run_moves settings endpoint operations
  rw [opening] at moves
  obtain ⟨opened, named, _, rest⟩ := moves.since_opened
  have counted := rest.connects_eq
  rw [← link_session, ← named, Link.session, Link.session, rest.serial_eq, counted]
  simp

/-- A check that finds the connection dead opens a transport. -/
theorem update_opens {now : Nat} (dead : endpoint.isDead settings now = true) :
    0 < (endpoint.update settings now).effects.countP (·.opens) := by
  -- The link is closed by then, so that connecting opens it.
  have closed : endpoint.disconnect.endpoint.channel = .closed :=
    congrArg Link.channel (disconnect_link endpoint)
  rw [update_of_isDead dead]
  simp [Reaction.andThen, connect, closed]

/-- Whatever happens after a transport was opened, the session before it does not come back. -/
theorem run_session_ne {operations : List Operation}
    (opens : 0 < (endpoint.run settings operations).effects.countP (·.opens)) :
    endpoint.session ≠ (endpoint.run settings operations).endpoint.session := by
  -- The number of a session is the count of openings, which never falls.
  have counted := (run_moves settings endpoint operations).connects_eq
  intro same
  have level : endpoint.connects = (endpoint.run settings operations).endpoint.connects :=
    congrArg SessionId.connect same
  simp only [link] at counted
  omega

/-- A link that let go of its last transport, and opened none since, is closed. -/
theorem channel_closed_of_released {operations : List Operation} {past since : List Effect}
    {request : TransportRequest}
    (opening : (endpoint.run settings operations).effects =
      past ++ .opened session request :: since)
    (released : since.any (·.releases) = true) (unopened : since.countP (·.opens) = 0) :
    (endpoint.run settings operations).endpoint.channel = .closed := by
  have moves := run_moves settings endpoint operations
  rw [opening] at moves
  obtain ⟨opened, _, held, rest⟩ := moves.since_opened
  -- At least one transport was let go of since, stopped or with its session.
  obtain ⟨release, member, lets⟩ := List.any_eq_true.mp released
  have gone : 0 < since.countP (·.stops) + since.countP (·.hangsUp) := by
    rcases Bool.or_eq_true_iff.mp lets with stops | hangsUp
    · have := List.countP_pos_iff (p := (·.stops)).mpr ⟨release, member, stops⟩
      omega
    · have := List.countP_pos_iff (p := (·.hangsUp)).mpr ⟨release, member, hangsUp⟩
      omega
  -- One was held to begin with, and none came, so that none is left.
  have balance := rest.transports_eq
  have nothing : (endpoint.run settings operations).endpoint.link.transports = 0 := by omega
  exact Link.transports_eq_zero.mp nothing

/--
The events of a session are dropped if and only if another transport was opened since the session's
own. So the events of a session that was let go of are dropped as long as the link is open again,
and those of one that a check finds dead are dropped from that check on.
-/
theorem discards_iff_opened_since {operations : List Operation} {past since : List Effect}
    {request : TransportRequest}
    (opening : (endpoint.run settings operations).effects =
      past ++ .opened session request :: since) :
    let after := (endpoint.run settings operations).endpoint
    (after.Discards settings session ↔ since.any (·.opens) = true) ∧
      (since.any (·.releases) = true → after.channel ≠ .closed →
        after.Discards settings session) ∧
      ∀ now, after.isDead settings now = true → ∀ more,
        (after.run settings (.update now :: more)).endpoint.Discards settings after.session := by
  intro after
  have current : after.session = session ↔ since.countP (·.opens) = 0 :=
    session_eq_iff_unopened opening
  have counted : since.any (·.opens) = true ↔ since.countP (·.opens) ≠ 0 := by
    simp [List.countP_eq_zero]
  have exactly : after.Discards settings session ↔ since.any (·.opens) = true := by
    rw [discards_iff_ne, counted, ne_comm]
    exact not_congr current
  refine ⟨exactly, ?_, ?_⟩
  · intro released held
    -- With no opening since, the link would be closed.
    refine exactly.mpr (counted.mpr fun unopened => ?_)
    exact held (channel_closed_of_released opening released unopened)
  · intro now dead more
    -- The check opens a transport itself, and whatever follows takes nothing back.
    have opens := update_opens dead
    refine discards_iff_ne.mpr (run_session_ne ?_)
    rw [run_cons_effects, List.countP_append]
    exact Nat.add_pos_left opens _

/-- A machine that is connected to again drops its first session, and its second once it is dead. -/
theorem discards_iff_opened_since_reopened :
    let settings : Settings := ⟨11100, 11400, 1000, 5000, 30000, 1000000000⟩
    let roster : Roster := ⟨.empty, .new ⟨[], false⟩⟩
    let machine : Machine := ⟨"cn=pc01", "pc01", ["10.0.0.11"], [], none, .linux⟩
    let endpoint := idle 0 0 machine ⟨"10.0.0.11", none⟩
    let request : TransportRequest := ⟨"10.0.0.11", 11100, 1000⟩
    let up (serial now : Nat) : Operation := .event now roster ⟨0, serial⟩ (.state .connected)
    let operations := [.connect, up 1 10, up 1 20, .close, .connect, up 2 30, up 2 40]
    let after := (endpoint.run settings operations).endpoint
    let joined : List Effect :=
      [.sessionOpened, .sent .requestIdentity, .published (.connected "pc01")]
    let since := joined ++ .sessionClosed :: .opened ⟨0, 2⟩ request :: joined
    (endpoint.run settings operations).effects = [] ++ .opened ⟨0, 1⟩ request :: since ∧
      after.Discards settings ⟨0, 1⟩ ∧
      after.isDead settings 70000 = true ∧
      (after.run settings [.update 70000]).endpoint.Discards settings ⟨0, 2⟩ := by
  intro settings roster machine endpoint request up operations after joined since
  have opening : (endpoint.run settings operations).effects =
      [] ++ .opened ⟨0, 1⟩ request :: since := by decide +kernel
  have dead : after.isDead settings 70000 = true := by decide +kernel
  have second : after.session = ⟨0, 2⟩ := by decide +kernel
  obtain ⟨exactly, _, checked⟩ := discards_iff_opened_since opening
  have reopened := checked 70000 dead []
  rw [second] at reopened
  exact ⟨opening, exactly.mpr rfl, dead, reopened⟩

/-- A machine that was closed after its handshake takes a late answer of its closed session. -/
theorem closed_session_identifies :
    let settings : Settings := ⟨11100, 11400, 1000, 5000, 30000, 1000000000⟩
    let roster : Roster := ⟨.empty, .new ⟨[], false⟩⟩
    let machine : Machine := ⟨"cn=pc01", "pc01", ["10.0.0.11"], [], none, .linux⟩
    let fresh := idle 0 0 machine ⟨"10.0.0.11", none⟩
    let up (now : Nat) : Operation := .event now roster ⟨0, 1⟩ (.state .connected)
    let closed := fresh.run settings [.connect, up 10, up 20, .close]
    let late := (closed.endpoint.handle settings 30 roster ⟨0, 1⟩ (.identity "pupil" "")).reaction
    create 0 0 machine none = .ok fresh ∧
      closed.effects = [.opened ⟨0, 1⟩ ⟨"10.0.0.11", 11100, 1000⟩, .sessionOpened,
        .sent .requestIdentity, .published (.connected "pc01"), .sessionClosed] ∧
      closed.endpoint.channel = .closed ∧
      late.effects = [.published (.identity "pc01" (some "pupil"))] ∧
      closed.endpoint.username.current = none ∧
      late.endpoint.username.current = some "pupil" ∧
      ¬ closed.endpoint.Discards settings ⟨0, 1⟩ := by
  intro settings roster machine fresh up closed late
  have released : closed.effects = [.opened ⟨0, 1⟩ ⟨"10.0.0.11", 11100, 1000⟩, .sessionOpened,
      .sent .requestIdentity, .published (.connected "pc01"), .sessionClosed] := by decide +kernel
  have told : late.effects = [.published (.identity "pc01" (some "pupil"))] := by decide +kernel
  refine ⟨rfl, released, by decide +kernel, told, by decide +kernel, by decide +kernel, ?_⟩
  intro discards
  have dropped := discards 30 roster (.identity "pupil" "")
  have silent : late.effects = [] := congrArg (·.reaction.effects) dropped
  rw [silent] at told
  contradiction

end ComputerRoom.Endpoint
