import ComputerRoom.Proofs.Endpoint.Viewing

/-!
Letting viewers in and shutting them out, as an algebra on lists of addresses: what an order does to
the viewers and which commands it sends, and what several orders in a row come to.
-/

namespace ComputerRoom

namespace Script

variable {viewers : List String}

/-- One script after another, which goes on from the viewers that the first one leaves. -/
def andThen (script : Script) (next : List String → Script) : Script :=
  let later := next script.viewers
  ⟨script.commands ++ later.commands, later.viewers⟩

/-- A command in front of the first script is in front of both. -/
theorem andThen_after (command : Command) (script : Script) (next : List String → Script) :
    (script.after command).andThen next = (script.andThen next).after command := rfl

/-- The addresses that are not in yet, in the order in which they are first named. -/
def newcomers (viewers ips : List String) : List String :=
  (ips.filter (· ∉ viewers)).eraseDups

/-- The addresses that are in, in the order in which they are first named. -/
def leavers (viewers ips : List String) : List String :=
  (ips.filter (· ∈ viewers)).eraseDups

/-- Before anybody is in, everybody is a newcomer. -/
@[simp] theorem newcomers_nil (ips : List String) : newcomers [] ips = ips.eraseDups := by
  simp [newcomers]

/-- The first address is a newcomer unless it is in, and it is in for those after it. -/
theorem newcomers_cons (viewers : List String) (ip : String) (rest : List String) :
    newcomers viewers (ip :: rest) =
      if ip ∈ viewers then newcomers viewers rest else ip :: newcomers (viewers ++ [ip]) rest := by
  by_cases inside : ip ∈ viewers
  · simp [newcomers, inside]
  · -- Naming the address again does not make it a newcomer once more.
    have others : (rest.filter (· ∉ viewers)).filter (fun other => !other == ip) =
        rest.filter (· ∉ viewers ++ [ip]) := by
      rw [List.filter_filter]
      refine List.filter_congr fun other _ => ?_
      by_cases same : other = ip <;> simp [same]
    simp only [newcomers, List.filter_cons, inside, not_false_eq_true, decide_true, if_true,
      List.eraseDups_cons, if_false]
    rw [others]

/-- The first address is a leaver if it is in, and it is out for those after it. -/
theorem leavers_cons (once : viewers.Nodup) (ip : String) (rest : List String) :
    leavers viewers (ip :: rest) =
      if ip ∈ viewers then ip :: leavers (viewers.erase ip) rest else leavers viewers rest := by
  by_cases inside : ip ∈ viewers
  · -- As nobody is in twice, the address is no leaver when it is named again.
    have others : (rest.filter (· ∈ viewers)).filter (fun other => !other == ip) =
        rest.filter (· ∈ viewers.erase ip) := by
      rw [List.filter_filter]
      refine List.filter_congr fun other _ => ?_
      simp [once.mem_erase_iff, Bool.beq_eq_decide_eq]
    simp only [leavers, List.filter_cons, inside, decide_true, if_true, List.eraseDups_cons]
    rw [others]
  · simp [leavers, inside]

/-- There are no newcomers exactly if everybody is in. -/
theorem newcomers_eq_nil_iff {ips : List String} :
    newcomers viewers ips = [] ↔ ∀ ip ∈ ips, ip ∈ viewers := by
  -- Dropping repetitions drops nobody for good.
  simp only [List.eq_nil_iff_forall_not_mem, newcomers, List.mem_eraseDups, List.mem_filter]
  simp

/-- There are no leavers exactly if nobody is in. -/
theorem leavers_eq_nil_iff {ips : List String} :
    leavers viewers ips = [] ↔ ∀ ip ∈ ips, ip ∉ viewers := by
  -- As before, only who is named at all matters.
  simp only [List.eq_nil_iff_forall_not_mem, leavers, List.mem_eraseDups, List.mem_filter]
  simp

/-- Letting addresses in lets in the newcomers among them, after those who are in. -/
theorem allow_eq (viewers ips : List String) :
    allow viewers ips =
      ⟨(newcomers viewers ips).map .allowHost, viewers ++ newcomers viewers ips⟩ := by
  -- An address that is let in counts as being in for those after it.
  induction ips generalizing viewers with
  | nil => simp [allow, newcomers]
  | cons ip rest ih =>
    rw [newcomers_cons, allow]
    by_cases inside : ip ∈ viewers
    · simp [inside, ih]
    · simp [inside, ih, after]

/-- Shutting addresses out shuts out the leavers among them, and keeps the order of the others. -/
theorem deny_eq (once : viewers.Nodup) (ips : List String) :
    deny viewers ips =
      ⟨(leavers viewers ips).map .denyHost, viewers.filter (· ∉ ips)⟩ := by
  -- The addresses are taken one by one, and the viewers stay distinct on the way.
  induction ips generalizing viewers with
  | nil => simp [deny, leavers]
  | cons ip rest ih =>
    rw [leavers_cons once, deny]
    by_cases inside : ip ∈ viewers
    · -- Whoever is shut out first is missing from what the others are shut out of.
      have kept : (viewers.erase ip).filter (· ∉ rest) = viewers.filter (· ∉ ip :: rest) := by
        rw [once.erase_eq_filter, List.filter_filter]
        refine List.filter_congr fun other _ => ?_
        by_cases same : other = ip <;> simp [same]
      rw [if_pos (by simpa using inside), if_pos inside, ih (once.erase ip), kept]
      rfl
    · -- An address that is not in makes no difference to who is left.
      have kept : viewers.filter (· ∉ rest) = viewers.filter (· ∉ ip :: rest) := by
        refine List.filter_congr fun other member => ?_
        have differs : other ≠ ip := fun same => inside (same ▸ member)
        simp [differs]
      rw [if_neg (by simpa using inside), if_neg inside, ih once, kept]

/-- Letting two lists in, one after the other, is letting in the two lists as one. -/
theorem allow_append (viewers first second : List String) :
    allow viewers (first ++ second) =
      (allow viewers first).andThen fun inside => allow inside second := by
  -- The first list is worked off before the second one is looked at.
  induction first generalizing viewers with
  | nil => rfl
  | cons ip rest ih =>
    simp only [List.cons_append, allow]
    split
    · exact ih viewers
    · rw [ih, andThen_after]

/-- Shutting two lists out, one after the other, is shutting out the two lists as one. -/
theorem deny_append (viewers first second : List String) :
    deny viewers (first ++ second) =
      (deny viewers first).andThen fun inside => deny inside second := by
  -- The same recursion as for letting in.
  induction first generalizing viewers with
  | nil => rfl
  | cons ip rest ih =>
    simp only [List.cons_append, deny]
    split
    · rw [ih, andThen_after]
    · exact ih viewers

/-- Whoever was let in is no newcomer any more. -/
theorem allow_again (viewers ips : List String) :
    allow (allow viewers ips).viewers ips = ⟨[], (allow viewers ips).viewers⟩ := by
  -- An address that was named is in by then, be it since before or as a newcomer.
  have inside : newcomers (viewers ++ newcomers viewers ips) ips = [] := by
    refine newcomers_eq_nil_iff.mpr fun ip named => ?_
    by_cases before : ip ∈ viewers
    · exact List.mem_append_left _ before
    · exact List.mem_append_right _ (by simp [newcomers, named, before])
  simp [allow_eq, inside]

/-- Whoever was shut out is no leaver any more. -/
theorem deny_again (once : viewers.Nodup) (ips : List String) :
    deny (deny viewers ips).viewers ips = ⟨[], (deny viewers ips).viewers⟩ := by
  -- Of those who are left nobody is named, so that nobody is shut out the second time.
  rw [deny_eq once, deny_eq (once.filter _)]
  have outside : leavers (viewers.filter (· ∉ ips)) ips = [] :=
    leavers_eq_nil_iff.mpr fun ip named => by simp [named]
  rw [outside, List.filter_filter]
  simp

/-- Shutting out again whoever was let in leaves those who were in before, as they were. -/
theorem deny_allow (once : viewers.Nodup) {ips : List String} (apart : viewers.Disjoint ips) :
    (deny (allow viewers ips).viewers ips).viewers = viewers := by
  have lasting := (allow_admits viewers ips).nodup once
  rw [deny_eq lasting, allow_eq]
  -- None of those before is named, and all of the newcomers are.
  have before : viewers.filter (· ∉ ips) = viewers :=
    List.filter_eq_self.mpr fun ip inside => by simpa using apart inside
  have since : (newcomers viewers ips).filter (· ∉ ips) = [] :=
    List.filter_eq_nil_iff.mpr fun ip newcomer => by
      simp only [newcomers, List.mem_eraseDups, List.mem_filter] at newcomer
      simp [newcomer.1]
  rw [List.filter_append, before, since, List.append_nil]

end Script

namespace Endpoint

variable {settings : Settings} {endpoint : Endpoint}

/-- An order in two parts does what the parts do, one after the other. -/
theorem perform_append {order : List String → Order} {first second : List String}
    (ready : endpoint.state.current = .ready) (held : endpoint.channel = .session)
    (splits : ∀ viewers, (order (first ++ second)).script settings viewers =
      ((order first).script settings viewers).andThen fun inside =>
        (order second).script settings inside) :
    let early := endpoint.perform settings (order first)
    let late := early.2.endpoint.perform settings (order second)
    endpoint.perform settings (order (first ++ second)) =
      (late.1, ⟨late.2.endpoint, early.2.effects ++ late.2.effects⟩) := by
  intro early late
  let middle := ((order first).script settings endpoint.viewers).viewers
  -- The first part leaves the endpoint ready, with other viewers.
  have begun := @perform_of_ready settings endpoint (order first) ready held
  have ended := @perform_of_ready settings { endpoint with viewers := middle } (order second)
    ready held
  have whole := @perform_of_ready settings endpoint (order (first ++ second)) ready held
  simp only [late, early, begun, whole, splits, ended, middle]
  simp [Script.andThen]

/-- An order that has nothing more to say when it is given again does nothing then. -/
theorem perform_again {order : Order} (ready : endpoint.state.current = .ready)
    (held : endpoint.channel = .session)
    (again : order.script settings (order.script settings endpoint.viewers).viewers =
      ⟨[], (order.script settings endpoint.viewers).viewers⟩) :
    let after := (endpoint.perform settings order).2.endpoint
    after.perform settings order = (.sent, ⟨after, []⟩) := by
  intro after
  -- The endpoint is as ready the second time as it was the first time.
  have done := @perform_of_ready settings endpoint order ready held
  have repeated := @perform_of_ready settings
    { endpoint with viewers := (order.script settings endpoint.viewers).viewers } order ready held
  simp only [after, done, repeated, again, List.map_nil]

/--
On an endpoint that is ready, nobody is among the viewers twice, and orders about viewers are an
algebra on lists of addresses. Starting the demo server lets in just the addresses that are named,
each of them once; letting in adds those who are not in yet, and shutting out takes away those who
are named. Two lists in a row have the effects of the two as one, the same list again has none, and
shutting out undoes letting in as long as nobody who is named was in before.
-/
theorem viewers_algebra {serial now : Nat} {machine : Machine} {prober : Option Prober}
    {fresh : Endpoint} (created : create serial now machine prober = .ok fresh)
    (settings : Settings) (operations : List Operation) :
    let endpoint := (fresh.run settings operations).endpoint
    let viewers := endpoint.viewers
    let leads (order : Order) (after : List String) (commands : List Command) : Prop :=
      endpoint.perform settings order =
        (.sent, ⟨{ endpoint with viewers := after }, commands.map .sent⟩)
    endpoint.state.current = .ready →
      viewers.Nodup ∧
      (∀ ips, leads (.startDemoServer ips) ips.eraseDups
        ([.stopDemoServer, .startDemoServer settings.vncPort settings.demoPort] ++
          viewers.map .denyHost ++ ips.eraseDups.map .allowHost)) ∧
      (∀ ips,
        let arriving := (ips.filter (· ∉ viewers)).eraseDups
        leads (.allowViewers ips) (viewers ++ arriving) (arriving.map .allowHost)) ∧
      (∀ ips,
        let leaving := (ips.filter (· ∈ viewers)).eraseDups
        leads (.denyViewers ips) (viewers.filter (· ∉ ips)) (leaving.map .denyHost)) ∧
      (∀ order, order = Order.allowViewers ∨ order = Order.denyViewers →
        (∀ first second,
          let early := endpoint.perform settings (order first)
          let late := early.2.endpoint.perform settings (order second)
          endpoint.perform settings (order (first ++ second)) =
            (late.1, ⟨late.2.endpoint, early.2.effects ++ late.2.effects⟩)) ∧
        ∀ ips,
          let after := (endpoint.perform settings (order ips)).2.endpoint
          after.perform settings (order ips) = (.sent, ⟨after, []⟩)) ∧
      ∀ ips, viewers.Disjoint ips →
        let allowed := (endpoint.perform settings (.allowViewers ips)).2.endpoint
        (allowed.perform settings (.denyViewers ips)).2.endpoint = endpoint := by
  intro endpoint viewers leads ready
  -- Whatever the endpoint went through, its viewers are distinct and it has a session.
  have once : viewers.Nodup := by
    obtain ⟨address, _, rfl⟩ := create_eq_ok_iff.mp created
    exact (run_admits settings _ operations).nodup List.nodup_nil
  have held : endpoint.channel = .session :=
    run_upOverSession created operations (isUp_of_ready ready)
  have obeys : ∀ order, leads order (order.script settings viewers).viewers
      (order.script settings viewers).commands := fun order => perform_of_ready order ready held
  refine ⟨once, fun ips => ?_, fun ips => ?_, fun ips => ?_, ?_, fun ips apart => ?_⟩
  · -- Starting anew shuts everybody out, so that whoever is named is a newcomer.
    have starts := obeys (.startDemoServer ips)
    simp only [Order.script, Script.allow_eq, Script.newcomers_nil, List.nil_append] at starts
    exact starts
  · -- Whoever is in is passed over, and the others come after them.
    have allows := obeys (.allowViewers ips)
    simp only [Order.script, Script.allow_eq] at allows
    exact allows
  · -- Shutting out needs the viewers to be distinct, as it takes one occurrence away.
    have denies := obeys (.denyViewers ips)
    simp only [Order.script, Script.deny_eq once] at denies
    exact denies
  · -- The laws of lists in a row are laws of the scripts, for each kind of order.
    rintro order (rfl | rfl)
    · exact ⟨fun first second => perform_append ready held fun inside =>
        Script.allow_append inside first second,
        fun ips => perform_again ready held (Script.allow_again viewers ips)⟩
    · exact ⟨fun first second => perform_append ready held fun inside =>
        Script.deny_append inside first second,
        fun ips => perform_again ready held (Script.deny_again once ips)⟩
  · -- Letting in changes nothing but the viewers, and these are restored.
    intro allowed
    have served : allowed = { endpoint with viewers := (Script.allow viewers ips).viewers } :=
      congrArg (·.2.endpoint) (obeys (.allowViewers ips))
    have restored := Script.deny_allow once apart
    have denied := @perform_of_ready settings
      { endpoint with viewers := (Script.allow viewers ips).viewers } (.denyViewers ips) ready held
    rw [served, denied]
    exact congrArg (fun inside => { endpoint with viewers := inside }) restored

/--
A demo was started for one viewer named twice. Two lists that name it again, and name somebody else
twice, let in nobody twice, and shutting out whoever is new leaves just the first viewer.
-/
theorem viewers_algebra_overlapping :
    let settings : Settings := ⟨11100, 11400, 1000, 5000, 30000, 1000000000⟩
    let roster : Roster := ⟨.empty, .new ⟨[], false⟩⟩
    let machine : Machine := ⟨"cn=pc01", "pc01", ["10.0.0.11"], [], none, .linux⟩
    let fresh := idle 0 0 machine ⟨"10.0.0.11", none⟩
    let operations : List Operation := [.connect, .event 10 roster ⟨0, 1⟩ (.state .connected),
      .event 20 roster ⟨0, 1⟩ (.state .connected),
      .perform (.startDemoServer ["10.0.0.12", "10.0.0.12"])]
    let endpoint := (fresh.run settings operations).endpoint
    let first := ["10.0.0.13", "10.0.0.12"]
    let second := ["10.0.0.14", "10.0.0.13", "10.0.0.14"]
    let early := endpoint.perform settings (.allowViewers first)
    let late := early.2.endpoint.perform settings (.allowViewers second)
    let others := ["10.0.0.14", "10.0.0.13"]
    let allowed := (endpoint.perform settings (.allowViewers others)).2.endpoint
    create 0 0 machine none = .ok fresh ∧
      endpoint.state.current = .ready ∧ endpoint.viewers = ["10.0.0.12"] ∧
      endpoint.perform settings (.allowViewers (first ++ second)) =
        (late.1, ⟨late.2.endpoint, early.2.effects ++ late.2.effects⟩) ∧
      late.2.endpoint.viewers = ["10.0.0.12", "10.0.0.13", "10.0.0.14"] ∧
      late.2.effects = [.sent (.allowHost "10.0.0.14")] ∧
      endpoint.viewers.Disjoint others ∧
      (allowed.perform settings (.denyViewers others)).2.endpoint = endpoint := by
  intro settings roster machine fresh operations endpoint first second early late others allowed
  have created : create 0 0 machine none = .ok fresh := rfl
  have ready : endpoint.state.current = .ready := by decide +kernel
  have apart : endpoint.viewers.Disjoint others := by
    have before : endpoint.viewers = ["10.0.0.12"] := by decide +kernel
    rw [before, List.singleton_disjoint]
    decide
  obtain ⟨_, _, _, _, laws, restores⟩ := @viewers_algebra 0 0 machine none fresh created settings
    operations ready
  obtain ⟨splits, _⟩ := laws .allowViewers (.inl rfl)
  refine ⟨created, ready, by decide +kernel, ?_, by decide +kernel, by decide +kernel, apart, ?_⟩
  · with_reducible exact splits first second
  · with_reducible exact restores others apart

end Endpoint

end ComputerRoom
