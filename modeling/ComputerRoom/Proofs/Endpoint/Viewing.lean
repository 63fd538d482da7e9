import Mathlib.Data.List.Nodup
import ComputerRoom.Proofs.Endpoint.Dispatch

/-!
Whom a machine lets watch is what its endpoint told it over time: every command about a viewer says
something new, and replaying all of them gives the viewers that the endpoint keeps.
-/

namespace ComputerRoom

namespace Command

/-- The viewers that are let in after a command. -/
def viewersAfter (viewers : List String) : Command → List String
  | .allowHost ip => viewers ++ [ip]
  | .denyHost ip => viewers.erase ip
  | _ => viewers

/-- Whether a command says anything new: nobody is let in again, or shut out who is not in. -/
def IsNews (viewers : List String) : Command → Prop
  | .allowHost ip => ip ∉ viewers
  | .denyHost ip => ip ∈ viewers
  | _ => True

/-- Whether a command lets an address in, or else shuts it out, if it is about that address. -/
def admission? (ip : String) : Command → Option Bool
  | .allowHost other => if other = ip then some true else none
  | .denyHost other => if other = ip then some false else none
  | _ => none

/-- Whether a command only asks the machine for a report. -/
def asks : Command → Bool
  | .requestIdentity | .requestFlags => true
  | _ => false

end Command

/-- Commands that lead from some viewers to others, each of them saying something new. -/
inductive Admits : List String → List Command → List String → Prop where
  | nothing (viewers : List String) : Admits viewers [] viewers
  | tell {viewers after : List String} {command : Command} {rest : List Command}
      (news : command.IsNews viewers) (later : Admits (command.viewersAfter viewers) rest after) :
      Admits viewers (command :: rest) after

namespace Admits

variable {viewers middle after : List String} {commands early late : List Command}

/-- Some commands can follow others. -/
theorem append (first : Admits viewers early middle) (second : Admits middle late after) :
    Admits viewers (early ++ late) after := by
  induction first with
  | nothing => exact second
  | tell news _ ih => exact .tell news (ih second)

/-- Commands can be cut anywhere. -/
theorem split (admits : Admits viewers (early ++ late) after) :
    ∃ middle, Admits viewers early middle ∧ Admits middle late after := by
  induction early generalizing viewers with
  | nil => exact ⟨viewers, .nothing viewers, admits⟩
  | cons command rest ih =>
    cases admits with
    | tell news later =>
      obtain ⟨middle, first, second⟩ := ih later
      exact ⟨middle, .tell news first, second⟩

/-- Commands of which none is about viewers leave them as they are. -/
theorem of_aside (aside : ∀ command ∈ commands, ∀ viewers, command.IsNews viewers ∧
    command.viewersAfter viewers = viewers) (viewers : List String) :
    Admits viewers commands viewers := by
  induction commands with
  | nil => exact .nothing viewers
  | cons command rest ih =>
    obtain ⟨first, later⟩ := List.forall_mem_cons.mp aside
    obtain ⟨news, same⟩ := first viewers
    exact .tell news (same.symm ▸ ih later)

/-- The viewers in the end are those that replaying the commands gives. -/
theorem foldl_eq (admits : Admits viewers commands after) :
    commands.foldl Command.viewersAfter viewers = after := by
  induction admits with
  | nothing => rfl
  | tell _ _ ih => exact ih

/-- A command that is told somewhere says something new to the viewers of that moment. -/
theorem isNews {command : Command}
    (admits : Admits viewers (early ++ command :: late) after) :
    command.IsNews (early.foldl Command.viewersAfter viewers) := by
  obtain ⟨middle, first, second⟩ := admits.split
  rw [first.foldl_eq]
  cases second with
  | tell news _ => exact news

/-- Nobody comes to be let in twice. -/
theorem nodup (admits : Admits viewers commands after) (once : viewers.Nodup) : after.Nodup := by
  induction admits with
  | nothing => exact once
  | @tell viewers _ command _ news _ ih =>
    refine ih ?_
    cases command with
    | allowHost ip =>
      -- Whoever is let in was not in before.
      refine List.nodup_append.mpr ⟨once, List.nodup_singleton ip, ?_⟩
      rintro other inside _ single rfl
      obtain rfl := List.mem_singleton.mp single
      exact news inside
    | denyHost ip => exact once.erase ip
    | _ => exact once

/-- A command about an address turns round whether it is in; any other leaves that as it is. -/
theorem mem_viewersAfter {command : Command} (once : viewers.Nodup) (news : command.IsNews viewers)
    (ip : String) :
    match command.admission? ip with
    | some allowed => ((ip ∈ viewers) ↔ ¬ allowed) ∧ (ip ∈ command.viewersAfter viewers ↔ allowed)
    | none => ip ∈ command.viewersAfter viewers ↔ ip ∈ viewers := by
  cases command with
  | allowHost other =>
    by_cases own : other = ip
    · subst own
      have outside : other ∉ viewers := news
      simp [Command.admission?, Command.viewersAfter, outside]
    · simp [Command.admission?, Command.viewersAfter, own, Ne.symm own]
  | denyHost other =>
    by_cases own : other = ip
    · subst own
      have inside : other ∈ viewers := news
      simp [Command.admission?, Command.viewersAfter, inside, once.mem_erase_iff]
    · simp [Command.admission?, Command.viewersAfter, own, List.mem_erase_of_ne (Ne.symm own)]
  | _ => exact Iff.rfl

/-- An address is let in and shut out by turns. -/
theorem alternate (admits : Admits viewers commands after) (once : viewers.Nodup) (ip : String) :
    (decide (ip ∈ viewers) :: commands.filterMap (·.admission? ip)).IsChain (· ≠ ·) := by
  -- What was told last is always whether the address is in at present.
  induction admits with
  | nothing => simp
  | @tell viewers after command rest news later ih =>
    have next := ih ((tell news (nothing _)).nodup once)
    have turn := mem_viewersAfter once news ip
    rw [List.filterMap_cons]
    cases about : command.admission? ip with
    | none =>
      rw [about] at turn
      simpa [turn] using next
    | some allowed =>
      rw [about] at turn
      obtain ⟨before, now⟩ := turn
      have told : decide (ip ∈ command.viewersAfter viewers) = allowed := by simp [now]
      have opposite : decide (ip ∈ viewers) ≠ allowed := by cases allowed <;> simp [before]
      exact List.isChain_cons_cons.mpr ⟨opposite, told ▸ next⟩

end Admits

namespace Script

variable (viewers : List String)

/-- Letting viewers in tells of each of them once, unless it is in already. -/
theorem allow_admits (ips : List String) :
    Admits viewers (allow viewers ips).commands (allow viewers ips).viewers := by
  -- An address that is let in counts as being in for those after it.
  induction ips generalizing viewers with
  | nil => exact .nothing viewers
  | cons ip rest ih =>
    unfold allow
    split
    · exact ih viewers
    · rename_i outside
      have news : (Command.allowHost ip).IsNews viewers := by
        simpa [Command.IsNews] using outside
      exact .tell news (ih (viewers ++ [ip]))

/-- Shutting viewers out tells of each of them once, as far as it is in. -/
theorem deny_admits (ips : List String) :
    Admits viewers (deny viewers ips).commands (deny viewers ips).viewers := by
  induction ips generalizing viewers with
  | nil => exact .nothing viewers
  | cons ip rest ih =>
    unfold deny
    split
    · rename_i inside
      have news : (Command.denyHost ip).IsNews viewers := by
        simpa [Command.IsNews] using inside
      exact .tell news (ih (viewers.erase ip))
    · exact ih viewers

/-- Shutting everybody out leaves nobody in. -/
theorem denyAll_admits : Admits viewers (denyAll viewers) [] := by
  -- The first of the viewers is shut out first, and the rest are left.
  induction viewers with
  | nil => exact .nothing []
  | cons ip rest ih =>
    refine .tell List.mem_cons_self ?_
    rw [Command.viewersAfter, List.erase_cons_head]
    exact ih

end Script

/-- However an order is carried out, its commands lead to the viewers that are let in after it. -/
theorem Order.script_admits (settings : Settings) (viewers : List String) (order : Order) :
    Admits viewers (order.script settings viewers).commands
      (order.script settings viewers).viewers := by
  -- Commands that are not about viewers are news at any time.
  have aside : ∀ {command : Command} {rest : List Command} {before after : List String},
      command.IsNews before → command.viewersAfter before = before → Admits before rest after →
        Admits before (command :: rest) after :=
    fun news same later => .tell news (same.symm ▸ later)
  cases order with
  | startDemoServer newViewers =>
    -- Whoever was let in is shut out before the new viewers are let in.
    refine aside trivial rfl (aside trivial rfl ?_)
    exact (Script.denyAll_admits viewers).append (Script.allow_admits [] newViewers)
  | stopDemoServer =>
    exact (Script.denyAll_admits viewers).append (aside trivial rfl (.nothing []))
  | allowViewers newViewers => exact Script.allow_admits viewers newViewers
  | denyViewers oldViewers => exact Script.deny_admits viewers oldViewers
  | denyAllViewers => exact Script.denyAll_admits viewers
  | startDemoClient =>
    exact aside trivial rfl (aside trivial rfl (aside trivial rfl (aside trivial rfl (.nothing _))))
  | _ => exact aside trivial rfl (.nothing viewers)

namespace Reaction

/-- The commands that a reaction sends, in order. -/
def commands (reaction : Reaction) : List Command :=
  reaction.effects.filterMap (·.command?)

/-- The commands of a reaction come before those of what follows it. -/
theorem commands_andThen (reaction : Reaction) (next : Endpoint → Reaction) :
    (reaction.andThen next).commands = reaction.commands ++ (next reaction.endpoint).commands :=
  List.filterMap_append

end Reaction

namespace Endpoint

/-- A reaction that leaves the viewers alone, and asks the machine for reports at most. -/
structure AsksOnly (endpoint : Endpoint) (reaction : Reaction) : Prop where
  viewers_eq : reaction.endpoint.viewers = endpoint.viewers
  asks : ∀ command ∈ reaction.commands, command.asks = true

namespace AsksOnly

variable {endpoint : Endpoint} {reaction : Reaction}

/-- Doing nothing to the outside asks for nothing. -/
theorem silent {after : Endpoint} (same : after.viewers = endpoint.viewers) :
    endpoint.AsksOnly ⟨after, []⟩ :=
  ⟨same, by simp [Reaction.commands]⟩

/-- Questions can follow questions. -/
theorem andThen {next : Endpoint → Reaction} (first : endpoint.AsksOnly reaction)
    (second : reaction.endpoint.AsksOnly (next reaction.endpoint)) :
    endpoint.AsksOnly (reaction.andThen next) := by
  refine ⟨second.viewers_eq.trans first.viewers_eq, ?_⟩
  rw [Reaction.commands_andThen, List.forall_mem_append]
  exact ⟨first.asks, second.asks⟩

/-- Questions are not about viewers. -/
theorem admits (asksOnly : endpoint.AsksOnly reaction) :
    Admits endpoint.viewers reaction.commands reaction.endpoint.viewers := by
  rw [asksOnly.viewers_eq]
  refine .of_aside ?_ endpoint.viewers
  intro command member viewers
  have asks := asksOnly.asks command member
  cases command with
  | requestIdentity | requestFlags => exact ⟨trivial, rfl⟩
  | _ => simp [Command.asks] at asks

end AsksOnly

variable {settings : Settings} {endpoint : Endpoint}

/-- Sending a question asks it at most. -/
theorem send_asksOnly (endpoint : Endpoint) {question : Command} (asks : question.asks = true) :
    endpoint.AsksOnly (endpoint.send [question]) := by
  unfold send
  split
  · exact ⟨rfl, by simpa [Reaction.commands, Effect.command?] using asks⟩
  · exact .silent rfl

/-- Opening the link asks for nothing. -/
theorem connect_asksOnly (settings : Settings) (endpoint : Endpoint) :
    endpoint.AsksOnly (endpoint.connect settings) := by
  unfold connect
  split
  · exact ⟨rfl, by simp [Reaction.commands, Effect.command?]⟩
  · exact .silent rfl

/-- Disconnecting asks for nothing; whoever was let in is not told otherwise. -/
theorem disconnect_asksOnly (endpoint : Endpoint) : endpoint.AsksOnly endpoint.disconnect := by
  unfold disconnect release
  split <;> exact ⟨rfl, by simp [Reaction.commands, Reaction.andThen, Effect.command?]⟩

/-- A report on the link asks who is logged in at most. -/
theorem takeLink_asksOnly (settings : Settings) (now : Nat) (status : LinkStatus)
    (endpoint : Endpoint) : endpoint.AsksOnly (endpoint.takeLink settings now status) := by
  by_cases up : status = .connected
  · subst up
    simp only [takeLink, Connection.ofLink, takeLinkUp]
    split
    · exact .silent rfl
    · -- The new session may have no time to ask.
      split <;> exact ⟨rfl, by simp [Reaction.commands, Effect.command?, Command.asks]⟩
    · split
      · exact .silent rfl
      · exact ⟨rfl, by simp [Reaction.commands, Effect.command?]⟩
  · rw [takeLink_of_ne_connected settings now endpoint up]
    refine .silent ?_
    unfold takeLinkDown
    split <;> rfl

/-- An answer about the user asks for flags at most. -/
theorem takeIdentity_asksOnly (now : Nat) (teaches : Bool) (username homeFolder : String)
    (endpoint : Endpoint) :
    endpoint.AsksOnly (endpoint.takeIdentity now teaches username homeFolder) := by
  -- Only a user that is there has the flags asked for, and what is stored spares the viewers.
  have asked : ∀ (informed : Endpoint) (asking : Bool), informed.viewers = endpoint.viewers →
      endpoint.AsksOnly (if asking then informed.send [.requestFlags] else ⟨informed, []⟩) := by
    intro informed asking same
    cases asking with
    | false => exact .silent same
    | true =>
      obtain ⟨kept, asks⟩ := send_asksOnly informed (rfl : Command.requestFlags.asks = true)
      exact ⟨kept.trans same, asks⟩
  obtain ⟨kept, asks⟩ := asked { endpoint with
    lastResponse := now
    username := endpoint.username.set (nonEmpty? username)
    homeFolder := endpoint.homeFolder.set (nonEmpty? homeFolder)
    teacher := endpoint.teacher.set teaches } (nonEmpty? username).isSome rfl
  simp only [takeIdentity]
  split
  · exact ⟨kept, asks⟩
  · -- The notice about the user is no command.
    refine ⟨kept, ?_⟩
    simpa [Reaction.commands, Effect.command?] using asks

/-- A report of flags asks for nothing. -/
theorem takeFlags_asksOnly (mask : FlagMask) (endpoint : Endpoint) :
    endpoint.AsksOnly (endpoint.takeFlags mask).2 := by
  refine ⟨rfl, ?_⟩
  simp [Reaction.commands, takeFlags, List.filterMap_map, Effect.command?]

/-- An event asks for what it calls for at most. -/
theorem handle_asksOnly (settings : Settings) (now : Nat) (roster : Roster) (session : SessionId)
    (event : Signal) (endpoint : Endpoint) :
    endpoint.AsksOnly (endpoint.handle settings now roster session event).reaction := by
  unfold handle
  split
  · exact .silent rfl
  · cases event with
    | state status => exact takeLink_asksOnly settings now status endpoint
    | identity username homeFolder =>
      exact takeIdentity_asksOnly now _ username homeFolder endpoint
    | flags mask => exact takeFlags_asksOnly mask endpoint

/-- A check asks who is logged in at most. -/
theorem update_asksOnly (settings : Settings) (now : Nat) (endpoint : Endpoint) :
    endpoint.AsksOnly (endpoint.update settings now) := by
  unfold update
  split
  · exact .silent rfl
  · split
    · refine (disconnect_asksOnly endpoint).andThen ?_
      -- The grace that the new link gets does not matter to the viewers.
      obtain ⟨kept, asks⟩ := connect_asksOnly settings { endpoint.disconnect.endpoint with
        lastResponse := now + settings.liveTimeout }
      exact ⟨kept, asks⟩
    · exact send_asksOnly endpoint rfl

/-- Ending supervision leaves the viewers alone. -/
@[simp] theorem stop_viewers (endpoint : Endpoint) : endpoint.stop.viewers = endpoint.viewers := by
  unfold stop
  split <;> rfl

/-- Starting supervision leaves the viewers alone. -/
@[simp] theorem start_viewers (now : Nat) (endpoint : Endpoint) :
    (endpoint.start now).viewers = endpoint.viewers := by
  unfold start
  split <;> rfl

/-- Closing asks for nothing. -/
theorem close_asksOnly (endpoint : Endpoint) : endpoint.AsksOnly endpoint.close := by
  obtain ⟨kept, asks⟩ := disconnect_asksOnly endpoint.stop
  exact ⟨kept.trans (stop_viewers endpoint), asks⟩

/-- An order leads to the viewers that are kept after it, whether or not it is carried out. -/
theorem perform_admits (settings : Settings) (order : Order) (endpoint : Endpoint) :
    Admits endpoint.viewers (endpoint.perform settings order).2.commands
      (endpoint.perform settings order).2.endpoint.viewers := by
  unfold perform
  split
  · rename_i able
    -- There is a session, so that everything is sent that is kept.
    have held : endpoint.channel = .session := by simp_all
    simp only [send, held, Reaction.commands, Effect.filterMap_command_sent]
    exact order.script_admits settings endpoint.viewers
  · exact .nothing endpoint.viewers

/-- Whatever happens to an endpoint, its commands lead to the viewers that it keeps. -/
theorem operate_admits (settings : Settings) (endpoint : Endpoint) (operation : Operation) :
    Admits endpoint.viewers (endpoint.operate settings operation).commands
      (endpoint.operate settings operation).endpoint.viewers := by
  -- Only orders are about viewers.
  cases operation with
  | connect => exact (connect_asksOnly settings endpoint).admits
  | start now => exact (AsksOnly.silent (start_viewers now endpoint)).admits
  | close => exact (close_asksOnly endpoint).admits
  | event now roster session event =>
    exact (handle_asksOnly settings now roster session event endpoint).admits
  | supervised now roster session event =>
    rw [Reaction.commands, operate_supervised_effects,
      operate_supervised_part _ _ _ _ _ _ Endpoint.viewers stop_viewers]
    exact (handle_asksOnly settings now roster session event endpoint).admits
  | link now status => exact (takeLink_asksOnly settings now status endpoint).admits
  | identity now roster username homeFolder =>
    exact (takeIdentity_asksOnly now _ username homeFolder endpoint).admits
  | flags mask => exact (takeFlags_asksOnly mask endpoint).admits
  | update now => exact (update_asksOnly settings now endpoint).admits
  | poll => exact (@AsksOnly.silent endpoint endpoint.poll.2 rfl).admits
  | perform order => exact perform_admits settings order endpoint

/-- The commands of a whole run lead to the viewers in the end. -/
theorem run_admits (settings : Settings) (endpoint : Endpoint) (operations : List Operation) :
    Admits endpoint.viewers (endpoint.run settings operations).commands
      (endpoint.run settings operations).endpoint.viewers := by
  induction operations generalizing endpoint with
  | nil => exact .nothing endpoint.viewers
  | cons operation rest ih =>
    rw [run, Reaction.commands_andThen]
    exact (operate_admits settings endpoint operation).append (ih _)

/--
Whatever an endpoint goes through, nobody is among its viewers twice, and they are those that its
commands have let in and not shut out again, in the order in which they were let in. A command never
lets in somebody who is in, and never shuts out somebody who is not, so that each address is let in
and shut out by turns, first of all let in.
-/
theorem viewers_eq_replay {serial now : Nat} {machine : Machine} {prober : Option Prober}
    {fresh : Endpoint} (created : create serial now machine prober = .ok fresh)
    (operations : List Operation) :
    let done := fresh.run settings operations
    let commands := done.effects.filterMap (·.command?)
    done.endpoint.viewers.Nodup ∧
      done.endpoint.viewers = commands.foldl Command.viewersAfter [] ∧
      (∀ early ip late, commands = early ++ .allowHost ip :: late →
        ip ∉ early.foldl Command.viewersAfter []) ∧
      (∀ early ip late, commands = early ++ .denyHost ip :: late →
        ip ∈ early.foldl Command.viewersAfter []) ∧
      ∀ ip, (false :: commands.filterMap (·.admission? ip)).IsChain (· ≠ ·) := by
  intro done commands
  obtain ⟨address, _, rfl⟩ := create_eq_ok_iff.mp created
  -- At first nobody is let in.
  have admits : Admits [] commands done.endpoint.viewers :=
    run_admits settings (idle serial now machine address) operations
  refine ⟨admits.nodup List.nodup_nil, admits.foldl_eq.symm, ?_, ?_,
    fun ip => admits.alternate List.nodup_nil ip⟩
  · intro early ip late cut
    rw [cut] at admits
    exact admits.isNews
  · intro early ip late cut
    rw [cut] at admits
    exact admits.isNews

/--
A demo is started for one viewer named twice, an order is lost while the link is down, and after the
machine is back one viewer is added and the first one is shut out.
-/
theorem viewers_eq_replay_recovery :
    let settings : Settings := ⟨11100, 11400, 1000, 5000, 30000, 1000000000⟩
    let roster : Roster := ⟨.empty, .new ⟨[], false⟩⟩
    let machine : Machine := ⟨"cn=pc01", "pc01", ["10.0.0.11"], [], none, .linux⟩
    let fresh := idle 0 0 machine ⟨"10.0.0.11", none⟩
    let up : List Operation := [.event 10 roster ⟨0, 1⟩ (.state .connected),
      .event 20 roster ⟨0, 1⟩ (.state .connected)]
    let operations : List Operation := [.connect] ++ up ++
      [.perform (.startDemoServer ["10.0.0.12", "10.0.0.12"]),
        .event 30 roster ⟨0, 1⟩ (.state .disconnected), .perform .denyAllViewers] ++ up ++
      [.perform (.allowViewers ["10.0.0.13", "10.0.0.12"]), .perform (.denyViewers ["10.0.0.12"])]
    let done := fresh.run settings operations
    let commands := done.effects.filterMap (·.command?)
    create 0 0 machine none = .ok fresh ∧
      done.endpoint.viewers = ["10.0.0.13"] ∧
      done.endpoint.viewers = commands.foldl Command.viewersAfter [] ∧
      commands.filterMap (·.admission? "10.0.0.12") = [true, false] := by
  intro settings roster machine fresh up operations done commands
  have created : create 0 0 machine none = .ok fresh := rfl
  obtain ⟨_, replayed, _⟩ := @viewers_eq_replay settings 0 0 machine none fresh created operations
  exact ⟨created, by decide +kernel, replayed, by decide +kernel⟩

end Endpoint

end ComputerRoom
