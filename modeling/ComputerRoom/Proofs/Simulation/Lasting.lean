import ComputerRoom.Proofs.Simulation.Lookups

/-!
What new endpoints have and operations keep holds of every endpoint of a classroom at any time,
whether it belongs to the active room or is left over from an earlier one.
-/

namespace ComputerRoom

/-- The roster in which an operation looks a user up, and that user, if it looks one up. -/
def Operation.consulted? (session : SessionId) : Operation → Option (Roster × String)
  | .event _ roster tagged signal | .supervised _ roster tagged signal =>
    if tagged = session then signal.user?.map (roster, ·) else none
  | .identity _ roster username _ => (Endpoint.nonEmpty? username).map (roster, ·)
  | _ => none

/--
A property that every new endpoint has, and that is kept by every operation which looks nobody up
but some given users, and these in one roster.
-/
structure Lasting (roster : Roster) (lookups : List String) (holds : Endpoint → Prop) : Prop where
  fresh : ∀ serial now machine address, holds (.idle serial now machine address)
  operate : ∀ settings endpoint operation, holds endpoint →
    (∀ other user, operation.consulted? endpoint.session = some (other, user) →
      other = roster ∧ user ∈ lookups) →
    holds (endpoint.operate settings operation).endpoint

/-- An event looks up nobody but whom the endpoint heeds. -/
theorem Operation.consulted?_event {endpoint : Endpoint} {now : Nat} {roster other : Roster}
    {session : SessionId} {event : Signal} {user : String}
    (consults : (Operation.event now roster session event).consulted? endpoint.session =
      some (other, user)) :
    other = roster ∧ user ∈ endpoint.heeds session event := by
  -- An event of another session consults nobody.
  simp only [consulted?, Option.ite_none_right_eq_some, Option.map_eq_some_iff] at consults
  obtain ⟨current, told, named, same⟩ := consults
  simp only [Prod.mk.injEq] at same
  obtain ⟨rfl, rfl⟩ := same
  exact ⟨rfl, by simp [Endpoint.heeds, current, named]⟩

namespace Lasting

variable {holds : Endpoint → Prop} {roster : Roster} {lookups : List String}
  {endpoints : List Endpoint} {endpoint : Endpoint}

/-- An operation that looks nobody up keeps whatever lasts. -/
theorem operate_quiet (lasting : Lasting roster lookups holds) (settings : Settings)
    (operation : Operation) (quiet : operation.consulted? endpoint.session = none)
    (before : holds endpoint) : holds (endpoint.operate settings operation).endpoint := by
  -- There is no lookup that would have to be one of those given.
  refine lasting.operate settings endpoint operation before ?_
  intro other user consults
  simp [quiet] at consults

/-- Supervision keeps whatever lasts. -/
theorem supervise {world : World} {session : SessionId} {event : Signal}
    (lasting : Lasting world.roster (endpoint.heeds session event) holds)
    (before : holds endpoint) :
    holds (world.supervise session event endpoint).reaction.endpoint := by
  rw [← Endpoint.operate_supervised]
  refine lasting.operate world.settings endpoint _ before ?_
  intro other user consults
  exact @Operation.consulted?_event endpoint world.now world.roster other session event user
    consults

/-- Starting supervision keeps whatever lasts. -/
theorem startChecked (lasting : Lasting roster lookups holds) (settings : Settings) (now : Nat)
    (before : holds endpoint) : holds (endpoint.startChecked settings now).endpoint := by
  -- Supervision that was started before does nothing.
  unfold Endpoint.startChecked
  split
  · have started := lasting.operate_quiet settings (.start now) rfl before
    exact lasting.operate_quiet settings (.update now) rfl started
  · exact before

/-- Every step on an endpoint keeps what lasts. -/
theorem take {Server : Type} {world : World} {step : EndpointStep Server}
    (lasting : Lasting world.roster (endpoint.lookups step) holds) (before : holds endpoint)
    (locate : Server → Except Answer String) :
    holds (endpoint.take world locate step).reaction.endpoint := by
  -- All steps but reports are operations that look nobody up, or none at all.
  have quiet : ∀ operation : Operation, operation.consulted? endpoint.session = none →
      holds (endpoint.operate world.settings operation).endpoint :=
    fun operation silent => lasting.operate_quiet world.settings operation silent before
  cases step with
  | connect => exact quiet .connect rfl
  | start => exact lasting.startChecked world.settings world.now before
  | launch => exact lasting.startChecked world.settings world.now (quiet .connect rfl)
  | close => exact quiet .close rfl
  | event event session =>
    -- Whom the event names is looked up in the roster at hand.
    refine lasting.operate world.settings endpoint
      (.event world.now world.roster (session.resolve endpoint) event) before ?_
    intro other user consults
    exact Operation.consulted?_event consults
  | link state => exact quiet (.link world.now state) rfl
  | identity username homeFolder =>
    refine lasting.operate world.settings endpoint
      (.identity world.now world.roster username homeFolder) before ?_
    intro other user consults
    simp only [Operation.consulted?, Option.map_eq_some_iff, Prod.mk.injEq] at consults
    obtain ⟨_, named, rfl, rfl⟩ := consults
    exact ⟨rfl, by simp [Endpoint.lookups, named]⟩
  | update => exact quiet (.update world.now) rfl
  | flags mask => exact quiet (.flags mask) rfl
  | relayFlags => exact quiet (.flags (world.agents.onHost endpoint.ip).mask) rfl
  | poll => exact quiet .poll rfl
  | perform order => exact quiet (.perform order) rfl
  | startDemoClient server fullscreen =>
    simp only [Endpoint.take]
    split
    · exact before
    · exact quiet (.perform (.startDemoClient _ fullscreen)) rfl
  | wakeUp =>
    simp only [Endpoint.take, Endpoint.wakeUpStep]
    split <;> exact before
  | isReady | hasTeacher | hidesScreen | flag | snapshot | describe | capture => exact before

/-- An endpoint that takes its place among others has what they have if it has it itself. -/
theorem forall_mem_replace {room : Room} {after : Endpoint}
    (all : ∀ endpoint ∈ room.endpoints, holds endpoint) (own : holds after) :
    ∀ endpoint ∈ (room.replace after).endpoints, holds endpoint := by
  intro other inside
  obtain ⟨before, there, rfl⟩ := List.mem_map.mp inside
  -- Each place is taken by whoever stood there, or by the endpoint that was put in.
  split
  · exact own
  · exact all before there

/-- Orders that are given all over a room keep whatever lasts. -/
theorem performAll (lasting : Lasting roster lookups holds) {room : Room}
    (all : ∀ endpoint ∈ room.endpoints, holds endpoint) (settings : Settings)
    (plan : List (String × Order)) :
    ∀ endpoint ∈ (room.performAll settings plan).1.endpoints, holds endpoint := by
  -- Each order goes to the room that the ones before it left.
  induction plan generalizing room with
  | nil => exact all
  | cons entry rest ih =>
    obtain ⟨name, order⟩ := entry
    unfold Room.performAll
    -- A name that nobody bears is passed over; anybody else takes the order.
    cases found : room.endpoint? name with
    | none => exact ih all
    | some endpoint =>
      have before := all endpoint (List.mem_of_find?_eq_some found)
      exact ih (forall_mem_replace all
        (lasting.operate_quiet settings (.perform order) rfl before))

/-- Closing a room keeps whatever lasts. -/
theorem close (lasting : Lasting roster lookups holds) {room : Room}
    (all : ∀ endpoint ∈ room.endpoints, holds endpoint) :
    ∀ endpoint ∈ room.close.1.endpoints, holds endpoint := by
  -- Endpoints close one by one, and closing does not depend on any settings.
  intro endpoint inside
  simp only [Room.close, List.map_map] at inside
  obtain ⟨before, there, rfl⟩ := List.mem_map.mp inside
  exact lasting.operate_quiet ⟨0, 0, 0, 0, 0, 0⟩ .close rfl (all before there)

/-- Checks at a moment keep whatever lasts. -/
theorem check (lasting : Lasting roster lookups holds)
    (all : ∀ endpoint ∈ endpoints, holds endpoint) (world : World) :
    ∀ endpoint ∈ (world.check endpoints).endpoints, holds endpoint := by
  -- Each endpoint is checked beside the rest, or passed over.
  induction endpoints generalizing world with
  | nil => exact all
  | cons endpoint rest ih =>
    obtain ⟨first, later⟩ := List.forall_mem_cons.mp all
    unfold World.check
    refine List.forall_mem_cons.mpr ⟨?_, ih later _⟩
    split
    · exact lasting.operate_quiet world.settings (.update world.now) rfl first
    · exact first

/-- Time that passes keeps whatever lasts. -/
theorem sleep (lasting : Lasting roster lookups holds)
    (all : ∀ endpoint ∈ endpoints, holds endpoint) (world : World) (duration : Nat) :
    ∀ endpoint ∈ (world.sleep duration endpoints).endpoints, holds endpoint := by
  -- Whatever the moments are, each of them goes on from the endpoints that the one before left.
  have passed : ∀ (moments : List Nat) (passage : Passage),
      (∀ endpoint ∈ passage.endpoints, holds endpoint) →
        ∀ endpoint ∈ (moments.foldl World.advance passage).endpoints, holds endpoint := by
    intro moments
    induction moments with
    | nil => exact fun _ before => before
    | cons moment later ih => exact fun _ before => ih _ (lasting.check before _)
  exact passed _ ⟨world, endpoints, []⟩ all

/-- An event that is brought to its endpoint keeps whatever lasts. -/
theorem deliver {world : World} {session : SessionId} {event : Signal}
    (lasting : Lasting world.roster (World.deliverLookups session event endpoints) holds)
    (all : ∀ endpoint ∈ endpoints, holds endpoint) :
    ∀ endpoint ∈ (world.deliver session event endpoints).endpoints, holds endpoint := by
  -- One endpoint takes the event beside the others, or nobody does.
  induction endpoints with
  | nil => exact all
  | cons endpoint rest ih =>
    obtain ⟨first, later⟩ := List.forall_mem_cons.mp all
    unfold World.deliver
    unfold World.deliverLookups at lasting ih
    split
    · rename_i own
      simp only [List.find?_cons, own] at lasting
      exact List.forall_mem_cons.mpr ⟨lasting.supervise first, later⟩
    · rename_i foreign
      simp only [List.find?_cons, foreign] at lasting
      exact List.forall_mem_cons.mpr ⟨first, ih lasting later⟩

/-- Every step on the surroundings keeps what lasts. -/
theorem takeWorld {world : World} {step : WorldStep}
    (lasting : Lasting world.roster (world.lookups endpoints step) holds)
    (all : ∀ endpoint ∈ endpoints, holds endpoint) :
    ∀ endpoint ∈ (world.take endpoints step).2.endpoints, holds endpoint := by
  -- Only time and events reach endpoints.
  cases step with
  | sleep duration => exact lasting.sleep all world duration
  | emit host event =>
    simp only [World.lookups] at lasting
    simp only [World.take, World.emit]
    cases line : (world.agents.onHost host).line with
    | none => exact all
    | some session =>
      simp only [line] at lasting
      exact lasting.deliver all
  | change | userQueries | setImage | clearCommands | obstructWaking | agents => exact all

/-- Endpoints that are opened for the members of a room have whatever lasts. -/
theorem addMembers (lasting : Lasting roster lookups holds) (equipment : Equipment)
    (directory : Directory) (ids : List String) {opening : Opening}
    (all : ∀ endpoint ∈ opening.endpoints, holds endpoint) :
    ∀ endpoint ∈ (ids.foldl (Opening.addMember equipment directory) opening).endpoints,
      holds endpoint := by
  -- Each member is opened beside those that were opened before it.
  induction ids generalizing opening with
  | nil => exact all
  | cons id rest ih =>
    refine ih ?_
    -- A member that cannot be opened is left out; one that can is new, and is launched.
    unfold Opening.addMember
    split
    · exact all
    · rename_i machine _
      split
      · exact all
      · rename_i endpoint created
        split
        · exact all
        · intro other member
          rcases List.mem_cons.mp ((Room.insert_perm _ _).mem_iff.mp member) with rfl | before
          · obtain ⟨address, _, rfl⟩ := Endpoint.create_eq_ok_iff.mp created
            have fresh := lasting.fresh opening.created equipment.now machine address
            have joined := lasting.operate_quiet equipment.settings .connect rfl fresh
            exact lasting.operate_quiet equipment.settings (.start equipment.now) rfl
              joined
          · exact all other before

end Lasting

/-- A turn that leaves only endpoints of some property, in the active room and beyond it. -/
structure Turn.Leaves (holds : Endpoint → Prop) (turn : Turn) : Prop where
  active : ∀ endpoint ∈ turn.supervisor.endpoints, holds endpoint
  released : ∀ endpoint ∈ turn.released, holds endpoint

namespace Lasting

variable {holds : Endpoint → Prop} {roster : Roster} {lookups : List String}
  {supervisor : Supervisor}

/-- Clearing leaves what lasts of the endpoints that were closed. -/
theorem clear (lasting : Lasting roster lookups holds)
    (all : ∀ endpoint ∈ supervisor.endpoints, holds endpoint) :
    supervisor.clear.Leaves holds := by
  -- Without a room there is nobody to close.
  obtain ⟨school, active, demoServer, created⟩ := supervisor
  cases active with
  | none => exact ⟨List.forall_mem_nil _, List.forall_mem_nil _⟩
  | some active => exact ⟨List.forall_mem_nil _, lasting.close all⟩

/-- Selecting a room leaves what lasts of the endpoints closed, and of those opened. -/
theorem select (lasting : Lasting roster lookups holds) (equipment : Equipment)
    (directory : Directory) (query : String)
    (all : ∀ endpoint ∈ supervisor.endpoints, holds endpoint) :
    (supervisor.select equipment directory query).2.Leaves holds := by
  -- The room before is closed in any case.
  have cleared := lasting.clear all
  cases resolved : supervisor.clear.supervisor.resolve directory query with
  | error failure => simpa only [Supervisor.select, resolved] using cleared
  | ok record =>
    simp only [Supervisor.select, resolved]
    refine ⟨@addMembers holds roster lookups lasting equipment directory record.memberIds
      ⟨[], [], supervisor.clear.supervisor.created⟩ (List.forall_mem_nil _), cleared.released⟩

/-- Ending demos keeps whatever lasts. -/
theorem stopDemo (lasting : Lasting roster lookups holds) (settings : Settings)
    (all : ∀ endpoint ∈ supervisor.endpoints, holds endpoint) :
    (supervisor.stopDemo settings).Leaves holds := by
  -- Without a room there is nobody to take orders.
  obtain ⟨school, active, demoServer, created⟩ := supervisor
  cases active with
  | none => exact ⟨all, List.forall_mem_nil _⟩
  | some active => exact ⟨lasting.performAll all settings _, List.forall_mem_nil _⟩

/-- Starting a demo keeps whatever lasts. -/
theorem startDemo (lasting : Lasting roster lookups holds) (settings : Settings)
    (other : Roster) (server : String) (fullscreen : Bool)
    (all : ∀ endpoint ∈ supervisor.endpoints, holds endpoint) :
    (supervisor.startDemo settings other server fullscreen).2.1.Leaves holds := by
  -- The demo before is ended if there is one, and the new one is started in what it leaves.
  have stopped : (supervisor.stopDemoIfAny settings).Leaves holds := by
    unfold Supervisor.stopDemoIfAny
    split
    · exact lasting.stopDemo settings all
    · exact ⟨all, List.forall_mem_nil _⟩
  unfold Supervisor.startDemo
  generalize supervisor.stopDemoIfAny settings = ended at stopped
  obtain ⟨⟨school, active, demoServer, created⟩, trace, released⟩ := ended
  cases active with
  | none => exact stopped
  | some active =>
    cases found : active.endpoint? server with
    | none => simpa [found] using stopped
    | some host =>
      simp only [found, Option.bind_eq_bind, Option.bind_some, Option.pure_def]
      exact ⟨lasting.performAll stopped.active settings _, stopped.released⟩

end Lasting

namespace Classroom

variable {holds : Endpoint → Prop} {room : Classroom}

/-- An endpoint is left over exactly if someone holds on to it. -/
theorem mem_leftOvers {held : List (String × Held)} {endpoint : Endpoint} :
    endpoint ∈ leftOvers held ↔ ∃ name, (name, .leftOver endpoint) ∈ held := by
  unfold leftOvers
  rw [List.mem_filterMap]
  constructor
  · rintro ⟨⟨name, kept⟩, member, same⟩
    cases kept with
    | inRoom => simp [Held.endpoint?] at same
    | leftOver other =>
      obtain rfl := Option.some.inj same
      exact ⟨name, member⟩
  · rintro ⟨name, member⟩
    exact ⟨(name, .leftOver endpoint), member, rfl⟩

/-- Whoever is left over by a room given up was in it, or was left over before. -/
theorem mem_leftOvers_loosen {released : List Endpoint} {held : List (String × Held)}
    {endpoint : Endpoint} (left : endpoint ∈ leftOvers (held.map (loosen released))) :
    endpoint ∈ released ∨ endpoint ∈ leftOvers held := by
  -- A hold on an endpoint is as it was before, or was a hold in the room.
  obtain ⟨name, member⟩ := mem_leftOvers.mp left
  obtain ⟨⟨other, kept⟩, before, same⟩ := List.mem_map.mp member
  cases kept with
  | leftOver past =>
    simp only [loosen, Prod.mk.injEq, Held.leftOver.injEq] at same
    obtain ⟨rfl, rfl⟩ := same
    exact .inr (mem_leftOvers.mpr ⟨other, before⟩)
  | inRoom =>
    cases found : released.find? fun endpoint => endpoint.name == other with
    | none => simp [loosen, found] at same
    | some past =>
      simp only [loosen, found, Prod.mk.injEq, Held.leftOver.injEq] at same
      obtain ⟨rfl, rfl⟩ := same
      exact .inl (List.mem_of_find?_eq_some found)

/-- What holds of the active room and of those left over holds of all that are live. -/
theorem forall_mem_live :
    (∀ endpoint ∈ room.live, holds endpoint) ↔
      (∀ endpoint ∈ room.supervisor.endpoints, holds endpoint) ∧
        ∀ endpoint ∈ leftOvers room.held, holds endpoint :=
  List.forall_mem_append

/-- What a turn of the supervisor leaves is all that is live, beside those left over before. -/
theorem afterTurn_live (answer : Answer) {turn : Turn} (leaves : turn.Leaves holds)
    (all : ∀ endpoint ∈ room.live, holds endpoint) :
    ∀ endpoint ∈ (room.afterTurn answer turn).2.live, holds endpoint := by
  -- Those given up are live only as far as someone holds on to them.
  obtain ⟨_, outside⟩ := forall_mem_live.mp all
  refine forall_mem_live.mpr ⟨leaves.active, ?_⟩
  intro endpoint left
  rcases mem_leftOvers_loosen left with closed | before
  · exact leaves.released endpoint closed
  · exact outside endpoint before

/-- Endpoints in the places of those of the active room are those, or there are none. -/
theorem forall_mem_withEndpoints {supervisor : Supervisor} {endpoints : List Endpoint}
    (all : ∀ endpoint ∈ endpoints, holds endpoint) :
    ∀ endpoint ∈ (withEndpoints supervisor endpoints).endpoints, holds endpoint := by
  cases active : supervisor.room with
  | none => simp [withEndpoints, active, Supervisor.endpoints]
  | some room => simpa [withEndpoints, active, Supervisor.endpoints] using all

/-- A step on an endpoint of the active room keeps what lasts. -/
theorem takeOn_lasting {name : String} {step : EndpointStep String}
    (lasting : Lasting room.world.roster (room.lookupsOn name step) holds)
    (all : ∀ endpoint ∈ room.live, holds endpoint) :
    ∀ endpoint ∈ (room.takeOn name step).2.live, holds endpoint := by
  -- A name that nobody bears reaches nobody.
  unfold takeOn
  unfold lookupsOn at lasting
  cases found : room.supervisor.endpoint? name with
  | none => exact all
  | some endpoint =>
    simp only [found] at lasting
    obtain ⟨inside, outside⟩ := forall_mem_live.mp all
    obtain ⟨active, present, member⟩ := mem_of_endpoint? found
    simp only [Supervisor.endpoints, present] at inside
    refine forall_mem_live.mpr ⟨?_, outside⟩
    simp only [Supervisor.endpoints, afterEndpointTurn, present, Option.map_some]
    exact Lasting.forall_mem_replace inside (lasting.take (inside endpoint member) room.locate)

/-- A step on an endpoint that is left over keeps what lasts. -/
theorem takeOnLeftOver_lasting {name : String} {past : Endpoint} {step : EndpointStep String}
    (found : room.held.lookup name = some (.leftOver past))
    (lasting : Lasting room.world.roster (past.lookups step) holds)
    (all : ∀ endpoint ∈ room.live, holds endpoint) :
    ∀ endpoint ∈ (room.takeOnHeld name step).2.live, holds endpoint := by
  -- The endpoint goes on in its own hold, and nobody else is reached.
  obtain ⟨inside, outside⟩ := forall_mem_live.mp all
  have before : holds past := by
    obtain ⟨early, late, split, _⟩ := List.lookup_eq_some_iff.mp found
    exact outside past (mem_leftOvers.mpr ⟨name, by simp [split]⟩)
  simp only [takeOnHeld, found]
  refine forall_mem_live.mpr ⟨inside, ?_⟩
  intro endpoint left
  obtain ⟨own, member⟩ := mem_leftOvers.mp left
  obtain ⟨⟨other, kept⟩, there, same⟩ := List.mem_map.mp member
  -- A hold on another name is as it was.
  dsimp only at same
  split at same
  · simp only [Prod.mk.injEq, Held.leftOver.injEq] at same
    rw [← same.2]
    exact lasting.take before room.locate
  · simp only [Prod.mk.injEq] at same
    obtain ⟨rfl, rfl⟩ := same
    exact outside endpoint (mem_leftOvers.mpr ⟨other, there⟩)

/-- Every step keeps what lasts of all endpoints that are live. -/
theorem take_lasting {step : ClassroomStep}
    (lasting : Lasting room.world.roster (room.lookups step) holds)
    (all : ∀ endpoint ∈ room.live, holds endpoint) :
    ∀ endpoint ∈ (room.take step).2.live, holds endpoint := by
  -- Steps go on with endpoints, make new ones or give some up; the others only look.
  obtain ⟨inside, outside⟩ := forall_mem_live.mp all
  cases step with
  | world step =>
    exact forall_mem_live.mpr ⟨forall_mem_withEndpoints (lasting.takeWorld inside), outside⟩
  | select query => exact afterTurn_live _ (lasting.select room.equipment _ query inside) all
  | setSchool school =>
    obtain ⟨active, released⟩ := lasting.clear inside
    exact afterTurn_live _ ⟨active, released⟩ all
  | clear => exact afterTurn_live _ (lasting.clear inside) all
  | startDemo server fullscreen =>
    let consulted : Classroom := { room with world := { room.world with roster :=
      (room.supervisor.startDemo room.world.settings room.world.roster server fullscreen).2.2 } }
    have same : ∀ endpoint ∈ consulted.live, holds endpoint := all
    exact afterTurn_live _ (lasting.startDemo room.world.settings room.world.roster server
      fullscreen inside) same
  | stopDemo => exact afterTurn_live _ (lasting.stopDemo room.world.settings inside) all
  | relayFlags =>
    refine forall_mem_live.mpr ⟨forall_mem_withEndpoints ?_, outside⟩
    intro endpoint member
    simp only [List.map_map] at member
    obtain ⟨before, there, rfl⟩ := List.mem_map.mp member
    exact lasting.operate_quiet room.world.settings
      (.flags (room.world.agents.onHost before.ip).mask) rfl (inside before there)
  | on name step => exact takeOn_lasting lasting all
  | onHeld name step =>
    simp only [lookups] at lasting
    cases found : room.held.lookup name with
    | none => simpa [take, takeOnHeld, found] using all
    | some kept =>
      simp only [found] at lasting
      cases kept with
      | leftOver past => exact takeOnLeftOver_lasting found lasting all
      | inRoom =>
        have taken := takeOn_lasting lasting all
        simp only [take, takeOnHeld, found]
        split <;> exact taken
  | hold name =>
    simp only [take, hold]
    split
    · exact all
    · -- Whoever is held on to anew is in the room, and nobody else comes to be left over.
      refine forall_mem_live.mpr ⟨inside, ?_⟩
      intro endpoint left
      obtain ⟨other, member⟩ := mem_leftOvers.mp left
      simp only [List.mem_append, List.mem_filter, List.mem_singleton, Prod.mk.injEq,
        reduceCtorEq, and_false, or_false] at member
      exact outside endpoint (mem_leftOvers.mpr ⟨other, member.1⟩)
  | usernames | ips | user | knownUsers => exact all

/-- What lasts whoever is looked up holds of all live endpoints after any steps. -/
theorem run_lasting (lasting : ∀ roster lookups, Lasting roster lookups holds)
    (all : ∀ endpoint ∈ room.live, holds endpoint) (steps : List ClassroomStep) :
    ∀ endpoint ∈ (room.run steps).live, holds endpoint := by
  -- Each step goes on from the classroom that the one before it left.
  induction steps generalizing room with
  | nil => exact all
  | cons step rest ih => exact ih (take_lasting (lasting _ _) all)

end Classroom

end ComputerRoom
