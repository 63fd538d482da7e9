import ComputerRoom.Proofs.Room.Broadcast
import ComputerRoom.Proofs.Simulation.Lookups
import ComputerRoom.Proofs.Simulation.NameOrder

/-!
Who is logged in, as a classroom answers it: the names are read off the texts that the machines
report, and whatever the directory says of these users makes no difference.
-/

namespace ComputerRoom

/-- A book in which whatever is kept under a text is about the name that the text holds. -/
def UserBook.Names (book : UserBook) : Prop :=
  ∀ lookup facts, book.find? lookup = some facts → LoginName.parse? lookup = some facts.username

/-- The login name of the user on a machine, if there is a user whose text holds one. -/
def Endpoint.loginName? (endpoint : Endpoint) : Option String :=
  endpoint.username.current.bind LoginName.parse?

namespace UserBook.Names

/-- Nothing is kept in a new book. -/
theorem new (rule : PrivacyRule) : (UserBook.new rule).Names := by
  -- There is no entry to speak of.
  intro lookup facts kept
  cases kept

variable {roster : Roster}

/-- Whatever a step comes to keep, it keeps about the name in the text that it looks up. -/
theorem step (names : roster.book.Names) (step : RosterStep) : (roster.step step).book.Names := by
  -- An entry was there before the step, or it is of the text that the step looks up.
  intro lookup facts kept
  cases known : roster.book.find? lookup with
  | some found =>
    -- What was kept before is what is kept now.
    have lasting := Roster.step_find? known step
    rw [kept, Option.some.injEq] at lasting
    exact lasting ▸ names lookup found known
  | none =>
    obtain rfl := Roster.step_eq_get known kept
    obtain ⟨username, parsed, named, _⟩ := Roster.borneOut_of_step known kept
    rw [parsed, named]

/-- Over a whole run, every text is kept with the name that it holds. -/
theorem run (names : roster.book.Names) (steps : List RosterStep) :
    (roster.run steps).book.Names := by
  -- Each step goes on from the roster that the one before it left.
  induction steps generalizing roster with
  | nil => exact names
  | cons first rest ih => exact ih (names.step first)

/-- A user who is looked up is told by the name in the text, wherever the facts come from. -/
theorem get_username (names : roster.book.Names) (lookup : String) :
    (roster.get lookup).1.toOption.map (·.username) = LoginName.parse? lookup := by
  -- There are four ways to an answer: the book, no name, a broken directory, and a working one.
  have answer : (roster.get lookup).1 = (roster.lookUp lookup).answer := rfl
  rw [answer, Roster.lookUp]
  cases known : roster.book.find? lookup with
  | some facts =>
    -- The facts may have been kept for another machine, with the same text.
    rw [UserBook.get_of_found known]
    exact (names lookup facts known).symm
  | none =>
    cases parsed : LoginName.parse? lookup with
    | none =>
      rw [UserBook.get_of_nameless known parsed]
      rfl
    | some username =>
      by_cases broken : ∃ text, roster.directory.account username = .error (.backend text)
      · obtain ⟨text, failed⟩ := broken
        rw [UserBook.get_of_broken known parsed failed]
        rfl
      · -- An account that was not found is as good for a name as one that was.
        obtain ⟨facts, named, _, told⟩ :=
          UserBook.get_of_working known parsed fun text failed => broken ⟨text, failed⟩
        rw [told, ← named]
        rfl

/-- A user who may be absent is told by the name in the text, and the book stays as it should be. -/
theorem facts? (names : roster.book.Names) (user : Option String) :
    (roster.facts? user).1.map (·.username) = user.bind LoginName.parse? ∧
      (roster.facts? user).2.book.Names := by
  cases user with
  | none => exact ⟨rfl, names⟩
  | some lookup =>
    rw [Option.bind_some]
    exact ⟨names.get_username lookup, names.step (.get lookup)⟩

/-- The names of the users on some machines are those in the texts that the machines report. -/
theorem usernames (names : roster.book.Names) (endpoints : List Endpoint) :
    (Room.usernames roster endpoints).1 = endpoints.filterMap (·.loginName?) := by
  -- Each user is looked up in the roster that the lookups before left.
  induction endpoints generalizing roster with
  | nil => rfl
  | cons endpoint rest ih =>
    obtain ⟨named, next⟩ := names.facts? endpoint.username.current
    have first : (Room.usernames roster (endpoint :: rest)).1 =
        endpoint.loginName?.toList ++ rest.filterMap (·.loginName?) := by
      rw [Endpoint.loginName?, ← named, ← ih next, Option.toList_map]
      rfl
    rw [first]
    cases login : endpoint.loginName? <;> simp [login]

end UserBook.Names

/-- The login names on the ready machines depend on who is ready and on the texts of the users. -/
theorem filterMap_loginName? (endpoints : List Endpoint) :
    (endpoints.filter (·.isReady)).filterMap (·.loginName?) =
      (endpoints.map fun endpoint => (endpoint.isReady, endpoint.username.current)).filterMap
        fun seen => if seen.1 then seen.2.bind LoginName.parse? else none := by
  -- Nothing else of the machines is looked at.
  rw [List.filterMap_filter, List.filterMap_map]
  rfl

namespace Classroom

/-- Whatever happened in a classroom, its book keeps every text with the name that it holds. -/
theorem run_names (settings : Settings) (directory : Directory) (rule : PrivacyRule)
    (prober : Option Prober) (steps : List ClassroomStep) :
    ((new settings ⟨directory, .new rule⟩ prober).run steps).world.roster.book.Names := by
  -- The roster goes through lookups and changes of the directory, and nothing else.
  rw [run_roster]
  exact (UserBook.Names.new rule).run _

/-- Who is logged in is answered by the login names on the ready machines. -/
theorem take_usernames {room : Classroom} (names : room.world.roster.book.Names) :
    (room.take .usernames).1 = .new (.texts
      ((room.supervisor.endpoints.filter (·.isReady)).filterMap (·.loginName?))) [] [] :=
  congrArg (fun told => Report.new (.texts told) [] []) (names.usernames _)

/--
Who is logged in is answered by the names in the texts that the ready machines report, in the order
of the machines' names. Neither the accounts in the directory, nor its failures, nor whoever was
looked up before make a difference: in any two classrooms in which the same machines are ready, with
the same texts for their users, the answers are the same.
-/
theorem usernames_of_texts (settings : Settings) (directory : Directory) (rule : PrivacyRule)
    (prober : Option Prober) (steps : List ClassroomStep) :
    let room := (new settings ⟨directory, .new rule⟩ prober).run steps
    let endpoints := room.supervisor.endpoints
    Ascending endpoints ∧
      (room.take .usernames).1 = .new (.texts ((endpoints.filter (·.isReady)).filterMap
        fun endpoint => endpoint.username.current.bind LoginName.parse?)) [] [] ∧
      ∀ settings' directory' rule' prober' steps',
        let other := (new settings' ⟨directory', .new rule'⟩ prober').run steps'
        (other.supervisor.endpoints.map fun endpoint =>
            (endpoint.isReady, endpoint.username.current)) =
          (endpoints.map fun endpoint => (endpoint.isReady, endpoint.username.current)) →
        (other.take .usernames).1 = (room.take .usernames).1 := by
  intro room endpoints
  have ascending : Ascending endpoints :=
    @run_ascending (new settings ⟨directory, .new rule⟩ prober) List.Pairwise.nil steps
  have told := take_usernames (run_names settings directory rule prober steps)
  refine ⟨ascending, told, ?_⟩
  -- The other classroom answers in the same way, and shows the same of its machines.
  intro settings' directory' rule' prober' steps' other same
  rw [told, take_usernames (run_names settings' directory' rule' prober' steps'),
    filterMap_loginName?, filterMap_loginName?, same]

/--
A lab in which the pupil has no account, and one in which the account was looked up before the
directory broke down: both tell of the same two users.
-/
theorem usernames_of_texts_lab :
    let reports : List ClassroomStep := [.on "pc02" (.identity "LAB\\teach" ""),
      .on "pc01" (.identity "pupil (A pupil)" ""), .on "pc03" (.identity "pupil" "")]
    let arrive := .select "lab" :: (becomeReady "pc01" ++ becomeReady "pc02") ++ reports
    let before : List ClassroomStep :=
      [.world (.change (.addAccount ⟨"cn=pupil", "pupil", true, []⟩)), .user "pupil (A pupil)",
        .world (.change (.outage .user (some (.backend "down"))))]
    let room := (new labSettings labRoster none).run arrive
    let other := (new labSettings labRoster none).run (before ++ arrive)
    let seen (room : Classroom) := room.supervisor.endpoints.map fun endpoint =>
      (endpoint.isReady, endpoint.username.current)
    room.world.roster.book.entries ≠ other.world.roster.book.entries ∧ seen other = seen room ∧
      (room.take .usernames).1 = .new (.texts ["pupil", "teach"]) [] [] ∧
      (other.take .usernames).1 = (room.take .usernames).1 := by
  intro reports arrive before room other seen
  have same : seen other = seen room := by decide +kernel
  have named : (room.supervisor.endpoints.filter (·.isReady)).filterMap (·.loginName?) =
      ["pupil", "teach"] := by
    decide +kernel
  obtain ⟨_, told, alike⟩ :=
    usernames_of_texts labSettings labRoster.directory ⟨[], false⟩ none arrive
  refine ⟨by decide +kernel, same, ?_, ?_⟩
  · exact told.trans (congrArg (fun names => Report.new (.texts names) [] []) named)
  · exact alike labSettings labRoster.directory ⟨[], false⟩ none (before ++ arrive) same

end Classroom

end ComputerRoom
