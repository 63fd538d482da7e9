import ComputerRoom.Proofs.Simulation.Descent
import ComputerRoom.Simulation.Report

/-!
Orders to endpoints by name: each goes to the machine of that name if it is ready, and leaves
everything about the room as it was, except for whom its machines let watch.
-/

namespace ComputerRoom

/-- Whether a command does nothing but let a viewer in or shut one out. -/
def Command.admits : Command → Bool
  | .allowHost _ | .denyHost _ => true
  | _ => false

namespace Trace

/-- What machines are told to do in a trace, leaving out whom they let watch. -/
def actions (trace : Trace) : List (String × Command) :=
  (Report.commandsOf trace).filter fun (_, command) => !command.admits

/-- Nobody is told anything in an empty trace. -/
@[simp] theorem actions_nil : actions [] = [] := rfl

/-- What machines are told comes in the order of the traces. -/
@[simp] theorem actions_append (early late : Trace) :
    actions (early ++ late) = actions early ++ actions late := by
  simp [actions, Report.commandsOf]

/-- A machine that is sent commands is told to do those of them that are actions. -/
theorem actions_sent (ip : String) (commands : List Command) :
    actions ((commands.map Effect.sent).map fun effect => (ip, effect)) =
      (commands.filter (!·.admits)).map fun command => (ip, command) := by
  -- A command is kept or left out, whatever the others are.
  induction commands with
  | nil => rfl
  | cons command rest ih =>
    rw [List.map_cons, List.map_cons, ← List.singleton_append, actions_append, ih,
      List.filter_cons]
    cases admits : command.admits <;> simp [actions, Report.commandsOf, admits]

end Trace

namespace Script

/-- Letting viewers in is no action. -/
@[simp] theorem allow_actions (viewers ips : List String) :
    (allow viewers ips).commands.filter (!·.admits) = [] := by
  -- Each address is let in by one command, or is in already.
  induction ips generalizing viewers with
  | nil => rfl
  | cons ip rest ih =>
    unfold allow
    split
    · exact ih viewers
    · simpa [after, Command.admits] using ih (viewers ++ [ip])

/-- Shutting viewers out is no action. -/
@[simp] theorem deny_actions (viewers ips : List String) :
    (deny viewers ips).commands.filter (!·.admits) = [] := by
  -- Each address is shut out by one command, or is out already.
  induction ips generalizing viewers with
  | nil => rfl
  | cons ip rest ih =>
    unfold deny
    split
    · simpa [after, Command.admits] using ih (viewers.erase ip)
    · exact ih viewers

/-- Shutting everybody out is no action. -/
@[simp] theorem denyAll_actions (viewers : List String) :
    (denyAll viewers).filter (!·.admits) = [] := by
  simp [denyAll, Command.admits]

end Script

namespace Order

/-- What an order has a machine do, leaving out whom it lets watch. -/
def actions (settings : Settings) (order : Order) : List Command :=
  (order.script settings []).commands.filter (!·.admits)

/-- What an order has a machine do is the same whoever may watch. -/
theorem script_actions (settings : Settings) (viewers : List String) (order : Order) :
    (order.script settings viewers).commands.filter (!·.admits) = order.actions settings := by
  -- The viewers of the moment matter to commands about viewers only.
  cases order <;> simp [actions, script, Script.plain, List.filter_cons]

end Order

namespace Endpoint

/-- An endpoint with nobody let in to watch. -/
def unwatched (endpoint : Endpoint) : Endpoint :=
  { endpoint with viewers := [] }

/-- The address at which an endpoint takes orders, if it is ready to. -/
def readyIp? (endpoint : Endpoint) : Option String :=
  if endpoint.isReady then some endpoint.ip else none

section Unwatched

variable (endpoint : Endpoint)

/-- The name of an endpoint is the same whoever may watch. -/
@[simp] theorem unwatched_name : endpoint.unwatched.name = endpoint.name := rfl

/-- The address of an endpoint is the same whoever may watch. -/
@[simp] theorem unwatched_ip : endpoint.unwatched.ip = endpoint.ip := rfl

/-- The machine of an endpoint is the same whoever may watch. -/
@[simp] theorem unwatched_machine : endpoint.unwatched.machine = endpoint.machine := rfl

/-- The link of an endpoint is the same whoever may watch. -/
@[simp] theorem unwatched_link : endpoint.unwatched.link = endpoint.link := rfl

/-- An endpoint is as ready whoever may watch. -/
@[simp] theorem unwatched_isReady : endpoint.unwatched.isReady = endpoint.isReady := rfl

/-- An endpoint takes orders at the same address whoever may watch. -/
@[simp] theorem unwatched_readyIp? : endpoint.unwatched.readyIp? = endpoint.readyIp? := rfl

/-- An endpoint shows the same flags whoever may watch. -/
@[simp] theorem unwatched_shows (flag : Flag) :
    endpoint.unwatched.shows flag = endpoint.shows flag := rfl

end Unwatched

variable {settings : Settings} {endpoint : Endpoint}

/-- An order changes nothing about an endpoint except for whom it lets watch. -/
@[simp] theorem perform_unwatched (order : Order) :
    (endpoint.perform settings order).2.endpoint.unwatched = endpoint.unwatched := by
  -- Commands that are sent leave the endpoint alone, and only the script has new viewers.
  simp only [perform]
  split
  · rw [send_endpoint]
    rfl
  · rfl

/-- An order that reaches an endpoint has its machine do what the order says. -/
theorem perform_actions (lawful : endpoint.link.Lawful) (order : Order) :
    Trace.actions (endpoint.perform settings order).2.trace =
      endpoint.readyIp?.toList.flatMap fun ip =>
        (order.actions settings).map fun command => (ip, command) := by
  by_cases ready : endpoint.isReady = true
  · -- A ready endpoint has a session, so the whole script is sent.
    have up : endpoint.state.current = .ready := by simpa [isReady] using ready
    rw [perform_of_ready order up (channel_of_ready lawful ready)]
    simp only [Reaction.trace, Trace.actions_sent, Order.script_actions, readyIp?, ready, if_true,
      Option.toList_some, List.flatMap_singleton]
    rfl
  · have down : endpoint.state.current ≠ .ready := by simpa [isReady] using ready
    rw [perform_of_not_ready order down]
    simp [Reaction.trace, readyIp?, ready]

end Endpoint

/-- Among endpoints that all differ in some text, each is the only one with its own. -/
theorem eq_of_text_eq {endpoints : List Endpoint} {text : Endpoint → String}
    (distinct : (endpoints.map text).Nodup) {left right : Endpoint} (first : left ∈ endpoints)
    (second : right ∈ endpoints) (same : text left = text right) : left = right := by
  -- The first endpoint is one of the two, both of them, or neither.
  induction endpoints with
  | nil => contradiction
  | cons endpoint rest ih =>
    obtain ⟨fresh, later⟩ := List.nodup_cons.mp distinct
    -- An endpoint of the rest does not have the text of the first one.
    rcases List.mem_cons.mp first with rfl | behind
    · rcases List.mem_cons.mp second with rfl | behind
      · rfl
      · exact absurd (List.mem_map.mpr ⟨right, behind, same.symm⟩) fresh
    · rcases List.mem_cons.mp second with rfl | also
      · exact absurd (List.mem_map.mpr ⟨left, behind, same⟩) fresh
      · exact ih later behind also

namespace Room

/-- A room with nobody let in to watch. -/
def unwatched (room : Room) : Room :=
  { room with endpoints := room.endpoints.map (·.unwatched) }

/-- The address at which orders to a name are taken, if its endpoint is there and ready. -/
def readyIp? (room : Room) (name : String) : Option String :=
  (room.endpoint? name).bind (·.readyIp?)

section Unwatched

variable (room : Room)

/-- The endpoint of a name is the same whoever may watch. -/
@[simp] theorem unwatched_endpoint? (name : String) :
    room.unwatched.endpoint? name = (room.endpoint? name).map (·.unwatched) := by
  simp [endpoint?, unwatched, List.find?_map, Function.comp_def]

/-- Orders are taken at the same addresses whoever may watch. -/
@[simp] theorem unwatched_readyIp? (name : String) :
    room.unwatched.readyIp? name = room.readyIp? name := by
  simp [readyIp?, Option.bind_map, Function.comp_def]

/-- The same endpoints watch a demo whoever was let in before. -/
theorem unwatched_audience (server : String) :
    room.unwatched.audience server = (room.audience server).map (·.unwatched) := by
  simp [audience, unwatched, List.filter_map, Function.comp_def]

/-- Names are the same whoever may watch. -/
@[simp] theorem unwatched_names : names room.unwatched.endpoints = names room.endpoints := by
  simp [names, unwatched, Function.comp_def]

/-- Links are as lawful whoever may watch. -/
theorem unwatched_lawful : AllLawful room.unwatched.endpoints ↔ AllLawful room.endpoints := by
  simp [AllLawful, unwatched]

end Unwatched

variable {room after : Room}

/-- What is read off endpoints is the same where only whom they let watch differs. -/
theorem map_of_unwatched {α : Type} (same : after.unwatched = room.unwatched) {read : Endpoint → α}
    (blind : ∀ endpoint : Endpoint, read endpoint.unwatched = read endpoint) :
    after.endpoints.map read = room.endpoints.map read := by
  have alike := congrArg (fun room : Room => room.endpoints.map read) same
  simpa only [unwatched, List.map_map, Function.comp_def, blind] using alike

/-- Rooms that differ only in whom they let watch are kept alike. -/
theorem Regular.of_unwatched (regular : room.Regular) (same : after.unwatched = room.unwatched) :
    after.Regular := by
  -- Neither names nor links say whom a machine lets watch.
  constructor
  · rw [← after.unwatched_names, same, room.unwatched_names]
    exact regular.distinct
  · rw [← after.unwatched_lawful, same, room.unwatched_lawful]
    exact regular.lawful

/-- Rooms that differ only in whom they let watch take orders at the same addresses. -/
theorem readyIp?_of_unwatched (same : after.unwatched = room.unwatched) (name : String) :
    after.readyIp? name = room.readyIp? name := by
  rw [← after.unwatched_readyIp?, same, room.unwatched_readyIp?]

/-- An endpoint that changed only whom it lets watch changes only that about its room. -/
theorem replace_unwatched (distinct : (names room.endpoints).Nodup) {before endpoint : Endpoint}
    (member : before ∈ room.endpoints) (same : endpoint.unwatched = before.unwatched) :
    (room.replace endpoint).unwatched = room.unwatched := by
  -- The only place it takes is its own, as names are distinct.
  have named : endpoint.name = before.name := congrArg (·.machine.name) same
  simp only [replace, unwatched, List.map_map]
  congr 1
  refine List.map_congr_left ?_
  intro other inside
  simp only [Function.comp_apply]
  split
  · rename_i taken
    have own : other.name = before.name := by simpa [named] using taken
    rw [same, eq_of_text_eq distinct inside member own]
  · rfl

/-- Orders change nothing about a room except for whom its machines let watch. -/
theorem performAll_unwatched (settings : Settings) (plan : List (String × Order))
    (distinct : (names room.endpoints).Nodup) :
    (room.performAll settings plan).1.unwatched = room.unwatched := by
  -- One order after the other, each to one endpoint.
  induction plan generalizing room with
  | nil => rfl
  | cons entry rest ih =>
    obtain ⟨name, order⟩ := entry
    unfold performAll
    cases found : room.endpoint? name with
    | none => exact ih distinct
    | some endpoint =>
      have member : endpoint ∈ room.endpoints := List.mem_of_find?_eq_some found
      have placed := replace_unwatched distinct member
        (@Endpoint.perform_unwatched settings _ order)
      have apart := congrArg (fun room => names room.endpoints) placed
      simp only [unwatched_names] at apart
      exact (ih (apart ▸ distinct)).trans placed

/-- Orders by name have those machines do what they say that are there and ready. -/
theorem performAll_actions (regular : room.Regular) (settings : Settings)
    (plan : List (String × Order)) :
    Trace.actions (room.performAll settings plan).2 =
      plan.flatMap fun (name, order) => (room.readyIp? name).toList.flatMap fun ip =>
        (order.actions settings).map fun command => (ip, command) := by
  -- Whoever takes orders at first takes them to the end.
  induction plan generalizing room with
  | nil => rfl
  | cons entry rest ih =>
    obtain ⟨name, order⟩ := entry
    unfold performAll
    rw [List.flatMap_cons]
    cases found : room.endpoint? name with
    | none => simpa [readyIp?, found] using ih regular
    | some endpoint =>
      have member : endpoint ∈ room.endpoints := List.mem_of_find?_eq_some found
      have placed := replace_unwatched regular.distinct member
        (@Endpoint.perform_unwatched settings _ order)
      -- What the order says is told first, in the room as it was; then the others take theirs.
      have told := @Endpoint.perform_actions settings _ (regular.lawful endpoint member) order
      dsimp only
      rw [Trace.actions_append, told, ih (regular.of_unwatched placed)]
      simp only [readyIp?_of_unwatched placed]
      simp [readyIp?, found]

end Room

end ComputerRoom
