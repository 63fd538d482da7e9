import ComputerRoom.Proofs.Endpoint.Learning
import ComputerRoom.Proofs.Flips

/-!
What those who only follow the notices of an endpoint believe: they are right about the user and
the flags, unless these were forgotten since the last notice.
-/

namespace ComputerRoom

/-- Something that notices tell of: what an effect tells of it, and what an endpoint knows of it. -/
structure Topic (α : Type) where
  told? : Effect → Option α
  known : Endpoint → α
  /-- What is taken for granted as long as nothing is known. -/
  blank : α

/-- The user that an effect tells of. -/
def Effect.user? : Effect → Option (Option String)
  | .published (.identity _ user) => some user
  | _ => none

/-- The value of a flag that an effect tells of. -/
def Effect.flag? (flag : Flag) : Effect → Option Bool
  | .published (.flagChanged _ other value) => if other = flag then some value else none
  | _ => none

namespace Topic

/-- Who is logged in; at first nobody is. -/
def user : Topic (Option String) :=
  ⟨Effect.user?, fun endpoint => endpoint.username.current, none⟩

/-- Whether a machine shows a flag; at first it does not. -/
def flag (flag : Flag) : Topic Bool :=
  ⟨Effect.flag? flag, fun endpoint => endpoint.shows flag, false⟩

variable {α : Type} (topic : Topic α)

/-- What was said of a topic last. -/
def lastSaid (effects : List Effect) : α :=
  (effects.filterMap topic.told?).getLast?.getD topic.blank

/-- Whether the user was forgotten in some episode after which nothing was said of a topic. -/
def ForgottenSince (settings : Settings) (episodes : List Episode) : Prop :=
  ∃ early episode late, episodes = early ++ episode :: late ∧ episode.forgets settings = true ∧
    (Episode.effects late).filterMap topic.told? = []

/-- Whether an episode says just what it changes of a topic, unless it forgets the user. -/
def Announced [DecidableEq α] (settings : Settings) (episode : Episode) : Prop :=
  let before := topic.known episode.before
  let after := topic.known episode.reaction.endpoint
  let said := episode.reaction.effects.filterMap topic.told?
  if episode.forgets settings then after = topic.blank ∧ said = []
  else said = if before = after then [] else [after]

/-- What a follower makes of some episodes that led to an endpoint. -/
structure Followed (settings : Settings) (episodes : List Episode) (endpoint : Endpoint) :
    Prop where
  known_of_remembered : ¬ topic.ForgottenSince settings episodes →
    topic.lastSaid (Episode.effects episodes) = topic.known endpoint
  blank_of_forgotten : topic.ForgottenSince settings episodes →
    topic.known endpoint = topic.blank

variable {topic}

/-- What is said later replaces what was said before. -/
theorem lastSaid_append (topic : Topic α) (early late : List Effect) :
    topic.lastSaid (early ++ late) =
      (late.filterMap topic.told?).getLast?.getD (topic.lastSaid early) := by
  -- The last word is in the later part if anything is said there.
  rw [lastSaid, List.filterMap_append, List.getLast?_append, Option.getD_or]
  rfl

/-- One more episode forgets the user, or says nothing and leaves it at what was before. -/
theorem forgottenSince_concat {settings : Settings} {episodes : List Episode} {last : Episode} :
    topic.ForgottenSince settings (episodes ++ [last]) ↔ last.forgets settings = true ∨
      last.reaction.effects.filterMap topic.told? = [] ∧
        topic.ForgottenSince settings episodes := by
  constructor
  · rintro ⟨early, episode, late, cut, forgets, quiet⟩
    -- The episode that forgets is the last one, or stands before it.
    rcases List.eq_nil_or_concat late with rfl | ⟨between, final, rfl⟩
    · obtain ⟨_, same⟩ := List.append_inj' cut rfl
      have only : last = episode := by simpa using same
      exact .inl (only ▸ forgets)
    · have recut : episodes ++ [last] = (early ++ episode :: between) ++ [final] := by
        simpa using cut
      obtain ⟨same, final_eq⟩ := List.append_inj' recut rfl
      have only : last = final := by simpa using final_eq
      rw [List.concat_eq_append, Episode.effects_append, List.filterMap_append,
        Episode.effects_singleton, List.append_eq_nil_iff, ← only] at quiet
      exact .inr ⟨quiet.2, early, episode, between, same, forgets, quiet.1⟩
  · rintro (forgets | ⟨quiet, early, episode, late, rfl, forgets, silent⟩)
    · exact ⟨episodes, last, [], rfl, forgets, rfl⟩
    · refine ⟨early, episode, late ++ [last], by simp, forgets, ?_⟩
      rw [Episode.effects_append, List.filterMap_append, silent, Episode.effects_singleton, quiet]
      rfl

section Run

variable [DecidableEq α] {settings : Settings} {endpoint : Endpoint} {episodes : List Episode}

/-- A follower keeps up with one more episode. -/
theorem Followed.step (followed : topic.Followed settings episodes endpoint) {episode : Episode}
    (starts : episode.before = endpoint) (announced : topic.Announced settings episode) :
    topic.Followed settings (episodes ++ [episode]) episode.reaction.endpoint := by
  subst starts
  obtain ⟨remembered, forgotten⟩ := followed
  have said := lastSaid_append topic (Episode.effects episodes) episode.reaction.effects
  rw [← Episode.effects_singleton episode, ← Episode.effects_append,
    Episode.effects_singleton] at said
  unfold Announced at announced
  cases forgets : episode.forgets settings with
  | true =>
    -- Whatever was said before, nothing is known any more.
    simp only [forgets, if_true] at announced
    refine ⟨fun kept => absurd (forgottenSince_concat.mpr (.inl forgets)) kept, fun _ => ?_⟩
    exact announced.1
  | false =>
    simp only [forgets, Bool.false_eq_true, if_false] at announced
    have since : topic.ForgottenSince settings (episodes ++ [episode]) ↔ _ :=
      forgottenSince_concat
    by_cases same : topic.known episode.before = topic.known episode.reaction.endpoint
    · -- Nothing changes, and nothing is said.
      rw [if_pos same] at announced
      simp only [forgets, Bool.false_eq_true, false_or, announced, true_and] at since
      rw [announced] at said
      constructor
      · intro kept
        rw [said, ← same]
        exact remembered fun before => kept (since.mpr before)
      · intro before
        rw [← same]
        exact forgotten (since.mp before)
    · -- The new value is said, so that everyone is up to date.
      rw [if_neg same] at announced
      rw [announced] at said
      refine ⟨fun _ => said, fun before => ?_⟩
      simp [since, forgets, announced] at before

/-- A follower keeps up with a whole run. -/
theorem Followed.run (announced : ∀ endpoint operation, topic.Announced settings
      ⟨endpoint, operation, endpoint.operate settings operation⟩)
    (followed : topic.Followed settings episodes endpoint) (operations : List Operation) :
    topic.Followed settings (episodes ++ endpoint.episodes settings operations)
      (endpoint.run settings operations).endpoint := by
  -- Each operation goes on from the episodes that there were before it.
  induction operations generalizing endpoint episodes with
  | nil => simpa [Endpoint.episodes] using followed
  | cons operation rest ih =>
    have next := ih (followed.step rfl (announced endpoint operation))
    simpa [Endpoint.episodes] using next

/-- What was said last is right, unless it was forgotten since that there is nothing to say. -/
theorem Followed.lastSaid_eq_iff (followed : topic.Followed settings episodes endpoint) :
    topic.lastSaid (Episode.effects episodes) = topic.known endpoint ↔
      ¬ (topic.known endpoint = topic.blank ∧
        topic.lastSaid (Episode.effects episodes) ≠ topic.blank ∧
          topic.ForgottenSince settings episodes) := by
  obtain ⟨remembered, forgotten⟩ := followed
  -- Once the topic was forgotten, there is nothing that could be said of it.
  by_cases since : topic.ForgottenSince settings episodes
  · rw [forgotten since]
    simp [since]
  · simp [since, remembered since]

end Run

end Topic

namespace Endpoint

variable {settings : Settings} {endpoint : Endpoint}

/-- What an endpoint knows of a flag, with no report counting as a clear flag. -/
theorem shows_eq (endpoint : Endpoint) (flag : Flag) :
    endpoint.shows flag = (endpoint.flags.current.getD .empty).contains flag := by
  -- Without a report, no flag is shown, and no bit of the empty mask is set.
  unfold shows Endpoint.flag
  cases endpoint.flags.current with
  | none => simp [FlagMask.empty, FlagMask.contains]
  | some mask => simp

/-- A topic is read off the news alone if nothing else says anything of it. -/
theorem filterMap_news {α : Type} (told? : Effect → Option α) (reaction : Reaction)
    (newsworthy : ∀ effect, effect.isNews = false → told? effect = none) :
    reaction.effects.filterMap told? = reaction.news.filterMap told? := by
  rw [Reaction.news, List.filterMap_filter]
  refine congrArg (List.filterMap · reaction.effects) (funext fun effect => ?_)
  cases news : effect.isNews with
  | false => simpa using newsworthy effect news
  | true => simp

/-- A report says of a flag that it flipped, once, and nothing of a flag that did not. -/
theorem filterMap_flips (name : String) (mask : FlagMask) (previous : Option FlagMask)
    (flag : Flag) :
    ((mask.flipsSince previous).map fun (flag, value) =>
        Effect.published (.flagChanged name flag value)).filterMap (Effect.flag? flag) =
      if (previous.getD .empty).contains flag = mask.contains flag then []
      else [mask.contains flag] := by
  -- The notice of a flip is about a flag just as the flip is.
  have about : (Effect.flag? flag ∘ fun flip : Flag × Bool =>
      Effect.published (.flagChanged name flip.1 flip.2)) = flag.told? := rfl
  rw [List.filterMap_map]
  exact (congrArg (List.filterMap · _) about).trans (mask.filterMap_flipsSince previous flag)

/-- What an operation does to what is known of the user and the flags, and the news of it. -/
theorem operate_knowledge (settings : Settings) (endpoint : Endpoint) (operation : Operation) :
    let reaction := endpoint.operate settings operation
    let after := reaction.endpoint
    let forgets := Episode.forgets settings ⟨endpoint, operation, reaction⟩
    (forgets = false ∧ after.username.current = endpoint.username.current ∧
        after.flags.current = endpoint.flags.current ∧ reaction.news = []) ∨
      (forgets = true ∧ after.username.current = none ∧ after.flags.current = none ∧
        reaction.news = []) ∨
      (forgets = false ∧ after.flags.current = endpoint.flags.current ∧
        reaction.news = if endpoint.username.current = after.username.current then []
          else [.published (.identity endpoint.name after.username.current)]) ∨
      ∃ mask : FlagMask, forgets = false ∧ after.flags.current = some mask ∧
        after.username.current = endpoint.username.current ∧
        reaction.news = (mask.flipsSince endpoint.flags.current).map fun (flag, value) =>
          .published (.flagChanged endpoint.name flag value) := by
  intro reaction after forgets
  -- Only two of the watched cells are told of, so the others are left out of what follows.
  have read : ∀ {cells : Watched}, after.watched = cells →
      after.username.current = cells.username.current ∧
        after.flags.current = cells.flags.current := by
    rintro _ rfl
    exact ⟨rfl, rfl⟩
  cases operate_learns settings endpoint operation with
  | kept remembers cells silent | rose _ remembers _ cells silent
  | fell _ remembers _ _ cells silent =>
    exact .inl ⟨remembers, (read cells).1, (read cells).2, silent⟩
  | polled asked cells silent =>
    have remembers : forgets = false := by
      simp only [forgets, asked]
      rfl
    exact .inl ⟨remembers, (read cells).1, (read cells).2, silent⟩
  | lost _ forgets _ cells silent =>
    exact .inr (.inl ⟨forgets, (read cells).1, (read cells).2, silent⟩)
  | identified heard cells told =>
    have user := (read cells).1
    simp only [Tracked.set_current] at user
    rw [user]
    exact .inr (.inr (.inl ⟨forgets_of_signal heard, (read cells).2, told⟩))
  | @flagged mask heard cells told =>
    have flags := (read cells).2
    simp only [Tracked.set_current] at flags
    exact .inr (.inr (.inr ⟨mask, forgets_of_signal heard, flags, (read cells).1, told⟩))

/-- Every change of the user is announced, unless the user is forgotten. -/
theorem user_announced (settings : Settings) (endpoint : Endpoint) (operation : Operation) :
    Topic.user.Announced settings
      ⟨endpoint, operation, endpoint.operate settings operation⟩ := by
  have said := filterMap_news Effect.user? (endpoint.operate settings operation)
    fun effect dull => by unfold Effect.user?; split <;> simp_all [Effect.isNews]
  simp only [Topic.Announced, Topic.user, said]
  -- The news is about the user just in the third case, and about flags in the last one.
  obtain ⟨remembers, same, _, silent⟩ | ⟨forgets, blank, _, silent⟩ | ⟨remembers, _, told⟩ |
    ⟨mask, remembers, _, same, told⟩ := operate_knowledge settings endpoint operation
  · simp [remembers, same, silent]
  · simp [forgets, blank, silent]
  · simp only [remembers, told, Bool.false_eq_true, if_false]
    by_cases same : endpoint.username.current =
        (endpoint.operate settings operation).endpoint.username.current
    · simp [same]
    · simp [same, Effect.user?]
  · simp [remembers, same, told, Effect.user?]

/-- Every change of a flag is announced, unless the flags are forgotten with the user. -/
theorem flag_announced (flag : Flag) (settings : Settings) (endpoint : Endpoint)
    (operation : Operation) :
    (Topic.flag flag).Announced settings
      ⟨endpoint, operation, endpoint.operate settings operation⟩ := by
  have said := filterMap_news (Effect.flag? flag) (endpoint.operate settings operation)
    fun effect dull => by unfold Effect.flag?; split <;> simp_all [Effect.isNews]
  simp only [Topic.Announced, Topic.flag, said, shows_eq]
  obtain ⟨remembers, _, same, silent⟩ | ⟨forgets, _, blank, silent⟩ | ⟨remembers, same, told⟩ |
    ⟨mask, remembers, reported, _, told⟩ := operate_knowledge settings endpoint operation
  · simp [remembers, same, silent]
  · simp [forgets, blank, silent, FlagMask.empty, FlagMask.contains]
  · simp only [remembers, same, told, Bool.false_eq_true, if_false]
    split <;> simp [Effect.flag?]
  · rw [remembers, told, reported, filterMap_flips]
    simp

/-- Those who follow an endpoint from its creation are right unless something was forgotten. -/
theorem run_lastSaid_eq_iff {α : Type} [DecidableEq α] (topic : Topic α) {serial created : Nat}
    {machine : Machine} {prober : Option Prober} {fresh : Endpoint}
    (made : create serial created machine prober = .ok fresh)
    (unknown : ∀ address, topic.known (idle serial created machine address) = topic.blank)
    (announced : ∀ endpoint operation, topic.Announced settings
      ⟨endpoint, operation, endpoint.operate settings operation⟩)
    (operations : List Operation) :
    let after := fresh.run settings operations
    topic.lastSaid after.effects = topic.known after.endpoint ↔
      ¬ (topic.known after.endpoint = topic.blank ∧
        topic.lastSaid after.effects ≠ topic.blank ∧
          topic.ForgottenSince settings (fresh.episodes settings operations)) := by
  intro after
  obtain ⟨address, _, rfl⟩ := create_eq_ok_iff.mp made
  -- Nothing was said of an endpoint that was just created, and nothing is known of it.
  have start : topic.Followed settings [] (idle serial created machine address) := by
    refine ⟨fun _ => (unknown address).symm, ?_⟩
    rintro ⟨early, episode, late, cut, _⟩
    simp at cut
  have exactly := (start.run announced operations).lastSaid_eq_iff
  rwa [List.nil_append, ← run_effects_eq_episodes] at exactly

/-- Once an answer about the user was taken, the user is the one that it names, if any. -/
theorem operate_username {operation : Operation} {username homeFolder : String}
    (heard : operation.signal? endpoint.session = some (.identity username homeFolder)) :
    (endpoint.operate settings operation).endpoint.username.current = nonEmpty? username := by
  obtain ⟨now, teaches, same, _⟩ := operate_of_signal settings heard
  have cells := same.trans (takeIdentity_watched now teaches username homeFolder endpoint).1
  exact (congrArg (·.username.current) cells).trans (Tracked.set_current _ _)

/-- Once a report of flags was taken, each flag is known as it was reported. -/
theorem operate_flag {operation : Operation} {mask : FlagMask}
    (heard : operation.signal? endpoint.session = some (.flags mask)) (flag : Flag) :
    (endpoint.operate settings operation).endpoint.flag flag = some (mask.contains flag) := by
  obtain ⟨now, teaches, same, _⟩ := operate_of_signal settings heard
  have cells := same.trans (takeFlags_watched mask endpoint).1
  have stored := congrArg (·.flags.current) cells
  simp only [Tracked.set_current] at stored
  exact congrArg (Option.map fun mask : FlagMask => mask.contains flag) stored

/--
Right after an endpoint took an answer about the user, the last notice tells who is logged in, and
right after it took a report of flags, the last notice of each flag tells its value. The exception
is what was told of and then forgotten: the answer that nobody is logged in any more, or the report
of a flag that is clear, is not told if the user was forgotten since the last notice.
-/
theorem lastSaid_eq_unless_forgotten {serial created : Nat} {machine : Machine}
    {prober : Option Prober} {fresh : Endpoint}
    (made : create serial created machine prober = .ok fresh) (settings : Settings)
    (earlier : List Operation) (report : Operation) :
    let before := (fresh.run settings earlier).endpoint
    let after := fresh.run settings (earlier ++ [report])
    let episodes := fresh.episodes settings (earlier ++ [report])
    (∀ username homeFolder,
      report.signal? before.session = some (.identity username homeFolder) →
        let said := Topic.user.lastSaid after.effects
        (said = after.endpoint.username.current ↔
          ¬ (username = "" ∧ said ≠ none ∧ Topic.user.ForgottenSince settings episodes))) ∧
      ∀ mask, report.signal? before.session = some (.flags mask) → ∀ flag,
        let said := (Topic.flag flag).lastSaid after.effects
        (after.endpoint.flag flag = some said ↔
          ¬ (mask.contains flag = false ∧ said = true ∧
            (Topic.flag flag).ForgottenSince settings episodes)) := by
  intro before after episodes
  have reported : after.endpoint = (before.operate settings report).endpoint :=
    run_concat earlier report
  constructor
  · intro username homeFolder heard said
    have known : after.endpoint.username.current = nonEmpty? username :=
      (congrArg (·.username.current) reported).trans (operate_username heard)
    have nobody : after.endpoint.username.current = none ↔ username = "" := by
      simp [known, nonEmpty?]
    rw [← nobody]
    exact run_lastSaid_eq_iff Topic.user made (fun _ => rfl) (user_announced settings) _
  · intro mask heard flag said
    have known : after.endpoint.flag flag = some (mask.contains flag) :=
      (congrArg (·.flag flag) reported).trans (operate_flag heard flag)
    have shown : after.endpoint.shows flag = mask.contains flag := by simp [shows, known]
    -- After a report, a flag that is not shown is known to be clear.
    have same : after.endpoint.flag flag = some said ↔ said = after.endpoint.shows flag := by
      rw [known, shown, Option.some_inj, eq_comm]
    rw [same, ← shown, ← Bool.not_eq_false said]
    exact run_lastSaid_eq_iff (Topic.flag flag) made (fun _ => rfl) (flag_announced flag settings) _

/-- After a lost link, followers are right again about a user who is back and a locked screen. -/
theorem lastSaid_eq_unless_forgotten_return :
    let settings : Settings := ⟨11100, 11400, 1000, 5000, 30000, 1000000000⟩
    let roster : Roster := ⟨.empty, .new ⟨[], false⟩⟩
    let machine : Machine := ⟨"cn=pc01", "pc01", ["10.0.0.11"], [], none, .linux⟩
    let fresh := idle 0 0 machine ⟨"10.0.0.11", none⟩
    let event (now : Nat) (signal : Signal) : Operation := .event now roster ⟨0, 1⟩ signal
    let earlier : List Operation := [.connect, event 10 (.state .connected),
      event 20 (.state .connected), event 30 (.identity "pupil" ""), event 40 (.flags (.ofNat 8)),
      event 50 (.state .disconnected), event 60 (.state .connected)]
    let answer := event 70 (.identity "pupil" "")
    let report := event 70 (.flags (.ofNat 8))
    let before := (fresh.run settings earlier).endpoint
    let answered := fresh.run settings (earlier ++ [answer])
    let reported := fresh.run settings (earlier ++ [report])
    create 0 0 machine none = .ok fresh ∧
      answer.signal? before.session = some (.identity "pupil" "") ∧
      report.signal? before.session = some (.flags (.ofNat 8)) ∧
      Topic.user.lastSaid answered.effects = answered.endpoint.username.current ∧
      reported.endpoint.flag .screenLock =
        some ((Topic.flag .screenLock).lastSaid reported.effects) := by
  intro settings roster machine fresh event earlier answer report before answered reported
  have made : create 0 0 machine none = .ok fresh := rfl
  have named : answer.signal? before.session = some (.identity "pupil" "") := by decide +kernel
  have flagged : report.signal? before.session = some (.flags (.ofNat 8)) := by decide +kernel
  -- The reports are about somebody and about a screen that is locked, so nothing was held back.
  have right := ((@lastSaid_eq_unless_forgotten 0 0 machine none fresh made settings earlier
    answer).1 "pupil" "" named).mpr fun told => absurd told.1 (by decide +kernel)
  have shown := ((@lastSaid_eq_unless_forgotten 0 0 machine none fresh made settings earlier
    report).2 (.ofNat 8) flagged .screenLock).mpr fun told => absurd told.1 (by decide)
  -- From here on it does not matter which operations led there.
  clear_value earlier
  exact ⟨made, named, flagged, right, shown⟩

/-- A user who logs out while the link is lost is still there for those who follow the notices. -/
theorem lastSaid_stale :
    let settings : Settings := ⟨11100, 11400, 1000, 5000, 30000, 1000000000⟩
    let roster : Roster := ⟨.empty, .new ⟨[], false⟩⟩
    let machine : Machine := ⟨"cn=pc01", "pc01", ["10.0.0.11"], [], none, .linux⟩
    let fresh := idle 0 0 machine ⟨"10.0.0.11", none⟩
    let event (now : Nat) (signal : Signal) : Operation := .event now roster ⟨0, 1⟩ signal
    let earlier : List Operation := [.connect, event 10 (.state .connected),
      event 20 (.state .connected), event 30 (.identity "pupil" ""), event 40 (.flags (.ofNat 8)),
      event 50 (.state .disconnected), event 60 (.state .connected)]
    let answer := event 70 (.identity "" "")
    let report := event 80 (.flags (.ofNat 0))
    let answered := fresh.run settings (earlier ++ [answer])
    let reported := fresh.run settings (earlier ++ [answer, report])
    create 0 0 machine none = .ok fresh ∧
      answer.signal? (fresh.run settings earlier).endpoint.session = some (.identity "" "") ∧
      Topic.user.lastSaid answered.effects = some "pupil" ∧
      answered.endpoint.username.current = none ∧
      report.signal? answered.endpoint.session = some (.flags (.ofNat 0)) ∧
      (Topic.flag .screenLock).lastSaid reported.effects = true ∧
      reported.endpoint.flag .screenLock = some false := by
  intro settings roster machine fresh event earlier answer report answered reported
  exact ⟨rfl, by decide +kernel, by decide +kernel, by decide +kernel, by decide +kernel,
    by decide +kernel, by decide +kernel⟩

end Endpoint

end ComputerRoom
