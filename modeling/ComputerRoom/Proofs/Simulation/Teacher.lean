import ComputerRoom.Endpoint.Snapshot
import ComputerRoom.Proofs.Endpoint.Learning
import ComputerRoom.Proofs.Room.Broadcast
import ComputerRoom.Proofs.Simulation.Lasting

/-!
Two answers to the question whether a teacher works at a machine: the one that was stored when the
user was reported, and the one that is looked up now. They are the same as long as the directory is
not broken when it is asked.
-/

namespace ComputerRoom

namespace Endpoint

/-- What an endpoint stored about its user is what a roster tells, now and ever after. -/
def Upheld (roster : Roster) (endpoint : Endpoint) : Prop :=
  ∀ later, (endpoint.hasTeacher (roster.run later)).1 = endpoint.teacher.current

variable {settings : Settings} {endpoint after : Endpoint} {operation : Operation}
  {roster : Roster}

namespace Upheld

/-- Whatever becomes of the roster, the endpoint stays right about its user. -/
theorem run (upheld : endpoint.Upheld roster) (steps : List RosterStep) :
    endpoint.Upheld (roster.run steps) := by
  intro later
  rw [← Roster.run_append]
  exact upheld (steps ++ later)

/-- An endpoint that names nobody, and no teacher, is right. -/
theorem of_nobody (roster : Roster) (absent : endpoint.username.current = none)
    (taught : endpoint.teacher.current = false) : endpoint.Upheld roster := by
  intro later
  rw [hasTeacher, absent, taught]
  rfl

/-- An endpoint that names the same user, and says the same of it, is as right as before. -/
theorem of_watched (upheld : endpoint.Upheld roster)
    (user : after.watched.username.current = endpoint.username.current)
    (taught : after.watched.teacher.current = endpoint.teacher.current) :
    after.Upheld roster := by
  intro later
  have same : after.username.current = endpoint.username.current := user
  rw [hasTeacher, same]
  exact (upheld later).trans taught.symm

end Upheld

/-- A report of a user is stored together with what the roster tells of that user. -/
theorem operate_identity {username homeFolder : String}
    (heard : operation.signal? endpoint.session = some (.identity username homeFolder)) :
    ∃ roster, (∀ user, nonEmpty? username = some user →
        operation.consulted? endpoint.session = some (roster, user)) ∧
      let told := (endpoint.operate settings operation).endpoint
      told.username.current = nonEmpty? username ∧
        told.teacher.current = (roster.isTeacher (nonEmpty? username)).1 := by
  -- However the report comes, the endpoint takes it in the same way.
  have taken : ∀ (now : Nat) (roster : Roster),
      let told := (endpoint.identify now roster username homeFolder).reaction.endpoint
      told.username.current = nonEmpty? username ∧
        told.teacher.current = (roster.isTeacher (nonEmpty? username)).1 := by
    intro now roster
    obtain ⟨cells, _⟩ := takeIdentity_watched now (roster.isTeacher (nonEmpty? username)).1
      username homeFolder endpoint
    have user := congrArg (·.username.current) cells
    have teacher := congrArg (·.teacher.current) cells
    simp only [Tracked.set_current] at user teacher
    exact ⟨user, teacher⟩
  cases operation with
  | event now roster tagged signal =>
    simp only [Operation.signal?, Option.ite_none_right_eq_some, Option.some.injEq] at heard
    obtain ⟨rfl, rfl⟩ := heard
    refine ⟨roster, ?_, ?_⟩
    · intro user named
      simp [Operation.consulted?, Signal.user?, named]
    · simpa [operate, handle] using taken now roster
  | supervised now roster tagged signal =>
    simp only [Operation.signal?, Option.ite_none_right_eq_some, Option.some.injEq] at heard
    obtain ⟨rfl, rfl⟩ := heard
    refine ⟨roster, ?_, ?_⟩
    · intro user named
      simp [Operation.consulted?, Signal.user?, named]
    · simpa [operate, World.supervise, breaksOff, handle] using taken now roster
  | identity now roster name folder =>
    simp only [Operation.signal?, Option.some.injEq, Signal.identity.injEq] at heard
    obtain ⟨rfl, rfl⟩ := heard
    refine ⟨roster, ?_, taken now roster⟩
    intro user named
    simp [Operation.consulted?, named]
  | _ => simp [Operation.signal?] at heard

/--
Endpoints stay right about their users in the roster that some lookups lead to, if no query of these
lookups meets a broken directory.
-/
theorem lasting_upheld {lookups : List String} {steps : List RosterStep}
    (looked : lookups = [] ∨ steps = lookups.map .get)
    (works : ∀ query ∈ roster.queries steps, query.breaks = false) :
    Lasting roster lookups (Upheld (roster.run steps)) where
  fresh _ _ _ _ := Upheld.of_nobody _ rfl rfl
  operate settings endpoint operation upheld consults := by
    -- Operations leave the user alone, forget it, or store it together with an answer.
    cases operate_learns settings endpoint operation with
    | kept _ cells _ | rose _ _ _ cells _ | fell _ _ _ _ cells _ | flagged _ cells _ =>
      exact upheld.of_watched (by rw [cells]; rfl) (by rw [cells]; rfl)
    | polled _ cells _ => exact upheld.of_watched (by rw [cells]; rfl) (by rw [cells]; rfl)
    | lost _ _ _ cells _ =>
      have user := congrArg (·.username.current) cells
      have taught := congrArg (·.teacher.current) cells
      exact .of_nobody _ user taught
    | @identified username homeFolder _ heard _ _ =>
      obtain ⟨other, consulted, user, taught⟩ :=
        @operate_identity settings endpoint operation _ _ heard
      cases named : nonEmpty? username with
      | none =>
        -- Nobody is logged in any more.
        rw [named] at user taught
        exact .of_nobody _ user taught
      | some name =>
        -- The user was looked up in this roster, so that the answer lasts.
        obtain ⟨rfl, member⟩ := consults other name (consulted name named)
        rw [named] at user taught
        intro later
        rw [hasTeacher, user, taught]
        rcases looked with none | rfl
        · simp [none] at member
        · exact Roster.isTeacher_run_of_mem member works later

end Endpoint

namespace Classroom

variable {room : Classroom}

/-- Every step leaves endpoints right about their users, unless a query meets a broken directory. -/
theorem take_upheld (all : ∀ endpoint ∈ room.live, endpoint.Upheld room.world.roster)
    (step : ClassroomStep)
    (works : ∀ query ∈ room.world.roster.queries (room.rosterSteps step), query.breaks = false) :
    ∀ endpoint ∈ (room.take step).2.live,
      endpoint.Upheld (room.take step).2.world.roster := by
  -- A change of the directory looks nobody up.
  have looked : room.lookups step = [] ∨ room.rosterSteps step = (room.lookups step).map .get := by
    cases step with
    | world step => cases step <;> first | exact .inl rfl | exact .inr rfl
    | _ => exact .inr rfl
  rw [take_roster]
  exact take_lasting (Endpoint.lasting_upheld looked works) fun endpoint member =>
    (all endpoint member).run _

/-- Every run leaves endpoints right about their users, unless a query meets a broken directory. -/
theorem run_upheld (all : ∀ endpoint ∈ room.live, endpoint.Upheld room.world.roster)
    (steps : List ClassroomStep)
    (works : ∀ query ∈ room.world.roster.queries (room.history steps), query.breaks = false) :
    ∀ endpoint ∈ (room.run steps).live, endpoint.Upheld (room.run steps).world.roster := by
  -- Queries of the first step come first, and the rest goes on from the roster it leaves.
  induction steps generalizing room with
  | nil => exact all
  | cons step rest ih =>
    rw [history, Roster.queries_append, ← take_roster] at works
    obtain ⟨soon, late⟩ := List.forall_mem_append.mp works
    exact ih (take_upheld all step soon) late

/--
As long as no query for a user is answered by a broken directory, every endpoint that is live says
of its user at any time what looking that user up tells: whether it is a teacher.
-/
theorem teacher_eq_hasTeacher (settings : Settings) (roster : Roster) (prober : Option Prober)
    (steps : List ClassroomStep)
    (works : ∀ query ∈ roster.queries ((new settings roster prober).history steps),
      query.breaks = false) :
    let room := (new settings roster prober).run steps
    ∀ endpoint ∈ room.live,
      endpoint.teacher.current = (endpoint.hasTeacher room.world.roster).1 ∧
        endpoint.snapshot.teacher = (endpoint.hasTeacher room.world.roster).1 := by
  intro room endpoint member
  -- At first there is no endpoint that could be wrong.
  have upheld := @run_upheld (new settings roster prober) (List.forall_mem_nil _) steps works
  have same := upheld endpoint member []
  exact ⟨same.symm, same.symm⟩

/--
A teacher, a pupil who becomes a teacher only after the first lookup, and a text without a name: the
pupil stays one for both machines that report the same text.
-/
theorem teacher_eq_hasTeacher_lab :
    let steps : List ClassroomStep := [.select "lab", .on "pc01" (.identity "LAB\\teach" ""),
      .on "pc02" (.identity "pupil (A pupil)" ""),
      .world (.change (.addAccount ⟨"cn=pupil", "pupil", true, []⟩)),
      .on "pc03" (.identity "pupil (A pupil)" ""), .hold "pc01", .clear, .select "lab",
      .onHeld "pc01" (.identity "(nobody)" ""), .on "pc01" (.identity "LAB\\teach" ""),
      .on "pc02" (.identity "pupil" ""), .on "pc03" (.identity "pupil (A pupil)" "")]
    let room := (new labSettings labRoster none).run steps
    let queries := labRoster.queries ((new labSettings labRoster none).history steps)
    (queries.map fun query => (query.username, query.breaks)) =
        [("teach", false), ("pupil", false), ("pupil", false)] ∧
      (room.live.map fun endpoint =>
          (endpoint.name, endpoint.username.current, endpoint.teacher.current)) =
        [("pc01", some "LAB\\teach", true), ("pc02", some "pupil", true),
          ("pc03", some "pupil (A pupil)", false), ("pc01", some "(nobody)", false)] ∧
      ∀ endpoint ∈ room.live,
        endpoint.teacher.current = (endpoint.hasTeacher room.world.roster).1 := by
  intro steps room queries
  have works : ∀ query ∈ queries, query.breaks = false := by decide +kernel
  refine ⟨by decide +kernel, by decide +kernel, ?_⟩
  intro endpoint member
  exact (teacher_eq_hasTeacher labSettings labRoster none steps works endpoint member).1

end Classroom

end ComputerRoom
