import ComputerRoom.Proofs.User.History

/-!
The queries that lookups put to a directory. Unless the directory was broken, what a lookup told of
a user is told ever after; and it does not matter in which order users are looked up.
-/

namespace ComputerRoom

/-- A query for the account of a login name, with the answer that the directory gave. -/
structure UserQuery where
  username : String
  answer : Except DirectoryFailure Account

/-- Whether a query met a broken directory. -/
def UserQuery.breaks (query : UserQuery) : Bool :=
  match query.answer with
  | .error (.backend _) => true
  | _ => false

namespace Roster

/-- The queries that one step puts to the directory. -/
def asks (roster : Roster) : RosterStep → List UserQuery
  | .get lookup =>
    (roster.lookUp lookup).asked.map fun username =>
      ⟨username, roster.directory.account username⟩
  | .read _ | .change _ => []

/-- The queries that some steps put to the directory, in order. -/
def queries (roster : Roster) : List RosterStep → List UserQuery
  | [] => []
  | step :: rest => roster.asks step ++ (roster.step step).queries rest

variable {roster other : Roster} {lookup : String} {facts : UserFacts}

/-- The second part of a run goes on from where the first part led. -/
theorem run_append (first second : List RosterStep) :
    roster.run (first ++ second) = (roster.run first).run second :=
  List.foldl_append

/-- The queries of the second part of a run come after those of the first. -/
theorem queries_append (first second : List RosterStep) :
    roster.queries (first ++ second) =
      roster.queries first ++ (roster.run first).queries second := by
  -- The first step hands its roster to the rest.
  induction first generalizing roster with
  | nil => rfl
  | cons step rest ih => simp [queries, ih]

/-- Whether somebody teaches is read off what is kept. -/
theorem isTeacher_of_find? (kept : roster.book.find? lookup = some facts) :
    (roster.isTeacher (some lookup)).1 = facts.isTeacher := by
  have told : (roster.get lookup).1 = .ok facts :=
    congrArg Lookup.answer (UserBook.get_of_found kept)
  simp [isTeacher, facts?, told, Except.toOption]

/-- Nobody teaches whose text holds no name. -/
theorem isTeacher_of_nameless (new : roster.book.find? lookup = none)
    (nameless : LoginName.parse? lookup = none) :
    (roster.isTeacher (some lookup)).1 = false := by
  have told : (roster.get lookup).1 = .error (.missingKey lookup) :=
    congrArg Lookup.answer (UserBook.get_of_nameless new nameless)
  simp [isTeacher, facts?, told, Except.toOption]

/-- Nothing ever comes to be kept under a text without a name. -/
theorem run_find?_of_nameless (new : roster.book.find? lookup = none)
    (nameless : LoginName.parse? lookup = none) (steps : List RosterStep) :
    (roster.run steps).book.find? lookup = none := by
  cases kept : (roster.run steps).book.find? lookup with
  | none => rfl
  | some facts =>
    -- Whatever is kept was looked up by the name in its text.
    obtain ⟨_, _, _, unknown, first⟩ := exists_first_lookup new kept
    obtain ⟨username, parsed, _⟩ := borneOut_of_step unknown first
    simp [nameless] at parsed

/-- Unless its query met a broken directory, a lookup tells of a user what is told ever after. -/
theorem isTeacher_run_of_get (works : ∀ query ∈ roster.asks (.get lookup), query.breaks = false)
    (later : List RosterStep) :
    (((roster.step (.get lookup)).run later).isTeacher (some lookup)).1 =
      (roster.isTeacher (some lookup)).1 := by
  -- The text is known, or holds no name, or its name is asked for now.
  cases known : roster.book.find? lookup with
  | some facts =>
    -- What is kept already is what every lookup answers.
    have lasting := run_find? (step_find? known (.get lookup)) later
    rw [isTeacher_of_find? lasting, isTeacher_of_find? known]
  | none =>
    cases parsed : LoginName.parse? lookup with
    | none =>
      -- Nobody can ever be known by such a text.
      have unknown := run_find?_of_nameless known parsed (.get lookup :: later)
      rw [isTeacher_of_nameless known parsed]
      exact isTeacher_of_nameless unknown parsed
    | some username =>
      -- The directory answered, so that its answer is kept.
      have asked : roster.asks (.get lookup) =
          [⟨username, roster.directory.account username⟩] := by
        have looked := (Answers.of_new known).asks
        simp [asks, looked, known, parsed]
      have answers : ∀ text, roster.directory.account username ≠ .error (.backend text) := by
        intro text broken
        have told := works _ (asked ▸ List.mem_singleton_self _)
        simp [UserQuery.breaks, broken] at told
      obtain ⟨facts, _, _, got⟩ := UserBook.get_of_working known parsed answers
      have kept : (roster.step (.get lookup)).book.find? lookup = some facts := by
        have written : (roster.step (.get lookup)).book = roster.book.keep lookup facts :=
          congrArg Lookup.book got
        simp [written, UserBook.find?_keep, known]
      have told : (roster.get lookup).1 = .ok facts := congrArg Lookup.answer got
      rw [isTeacher_of_find? (run_find? kept later)]
      simp [isTeacher, facts?, told, Except.toOption]

/-- Unless a query met a broken directory, each of some lookups tells what is told ever after. -/
theorem isTeacher_run_of_mem {lookups : List String} (member : lookup ∈ lookups)
    (works : ∀ query ∈ roster.queries (lookups.map .get), query.breaks = false)
    (later : List RosterStep) :
    (((roster.run (lookups.map .get)).run later).isTeacher (some lookup)).1 =
      (roster.isTeacher (some lookup)).1 := by
  -- Each lookup goes on from the roster that the ones before it left.
  induction lookups generalizing roster with
  | nil => contradiction
  | cons first rest ih =>
    obtain ⟨soon, late⟩ := List.forall_mem_append.mp works
    rcases List.mem_cons.mp member with rfl | behind
    · rw [List.map_cons, run_cons, ← run_append]
      exact isTeacher_run_of_get soon _
    · -- Whoever is looked up first changes no answer.
      have same : ((roster.step (.get first)).facts? (some lookup)).1 =
          (roster.facts? (some lookup)).1 := (((Agrees.refl roster).get first).facts? _).1
      have told : ((roster.step (.get first)).isTeacher (some lookup)).1 =
          (roster.isTeacher (some lookup)).1 := by simp only [isTeacher, same]
      exact (ih behind late).trans told

end Roster

namespace UserBook

variable {book other : UserBook} {ask : String → Except DirectoryFailure Account}
  {lookup : String}

/-- Keeps some more facts, each under its own text. -/
def add (book : UserBook) (news : List (String × UserFacts)) : UserBook :=
  { book with entries := book.entries ++ news }

/-- What was kept before is found before the news. -/
theorem find?_add (book : UserBook) (news : List (String × UserFacts)) (text : String) :
    (book.add news).find? text = (book.find? text).or (news.lookup text) := by
  simp [find?, add, List.lookup_append]

/-- A lookup asks and adds the same wherever the same is kept under its text. -/
theorem get_congr (known : other.find? lookup = book.find? lookup)
    (rule : other.rule = book.rule) :
    (other.get ask lookup).asked = (book.get ask lookup).asked ∧
      ∃ news : List (String × UserFacts), (∀ text, text ≠ lookup → news.lookup text = none) ∧
        (book.get ask lookup).book = book.add news ∧
        (other.get ask lookup).book = other.add news := by
  -- A lookup that finds somebody, or is told nothing, adds nothing.
  have nothing : ∀ kept : UserBook, kept = kept.add [] := by
    intro kept
    simp [add]
  have single : ∀ (facts : UserFacts) (text : String), text ≠ lookup →
      List.lookup text [(lookup, facts)] = none := by
    intro facts text differs
    simp [List.lookup_cons, beq_false_of_ne differs]
  simp only [get, known, rule]
  split
  · exact ⟨rfl, [], fun _ _ => rfl, nothing book, nothing other⟩
  · split
    · exact ⟨rfl, [], fun _ _ => rfl, nothing book, nothing other⟩
    · split
      · exact ⟨rfl, [(lookup, _)], single _, rfl, rfl⟩
      · exact ⟨rfl, [], fun _ _ => rfl, nothing book, nothing other⟩
      · exact ⟨rfl, [(lookup, _)], single _, rfl, rfl⟩

/-- A lookup leaves alone what is kept under any other text. -/
theorem find?_get_of_ne {text : String} (differs : text ≠ lookup) :
    (book.get ask lookup).book.find? text = book.find? text := by
  obtain ⟨_, news, own, grown, _⟩ := @get_congr book book ask lookup rfl rfl
  simp [grown, find?_add, own text differs]

end UserBook

/-- Queries that are noted one after the other are noted together. -/
theorem Directory.noteQueries_noteQueries (directory : Directory) (first second : Nat) :
    (directory.noteQueries first).noteQueries second = directory.noteQueries (first + second) := by
  -- During an outage nothing is noted at all.
  unfold noteQueries
  split
  · simp
  · simp [Nat.add_assoc]

namespace Roster

variable {roster other : Roster} {lookup : String}

/-- Rosters over one directory that keep the same facts, perhaps in another order. -/
structure Alike (roster other : Roster) : Prop where
  directory : other.directory = roster.directory
  rule : other.book.rule = roster.book.rule
  entries : other.book.entries.Perm roster.book.entries
  find? : ∀ text, other.book.find? text = roster.book.find? text

namespace Alike

/-- A roster is like itself. -/
theorem refl (roster : Roster) : roster.Alike roster :=
  ⟨rfl, rfl, .refl _, fun _ => rfl⟩

/-- Likeness is handed on. -/
theorem trans {last : Roster} (first : roster.Alike other) (second : other.Alike last) :
    roster.Alike last where
  directory := second.directory.trans first.directory
  rule := second.rule.trans first.rule
  entries := second.entries.trans first.entries
  find? text := (second.find? text).trans (first.find? text)

/-- A lookup in rosters that are alike asks the same, and leaves them alike. -/
theorem get (alike : roster.Alike other) (lookup : String) :
    other.asks (.get lookup) = roster.asks (.get lookup) ∧
      (roster.step (.get lookup)).Alike (other.step (.get lookup)) := by
  -- Both books come to keep the same news.
  obtain ⟨directory, rule, entries, kept⟩ := alike
  obtain ⟨asked, news, _, grown, grownOther⟩ :=
    @UserBook.get_congr roster.book other.book roster.directory.account lookup (kept lookup) rule
  simp only [asks, lookUp, step, Roster.get, directory, asked]
  refine ⟨trivial, rfl, ?_, ?_, fun text => ?_⟩
  · rw [grown, grownOther]
    exact rule
  · rw [grown, grownOther]
    exact entries.append_right news
  · rw [grown, grownOther, UserBook.find?_add, UserBook.find?_add, kept]

/-- Lookups in rosters that are alike ask the same, and leave them alike. -/
theorem run (alike : roster.Alike other) (lookups : List String) :
    other.queries (lookups.map .get) = roster.queries (lookups.map .get) ∧
      (roster.run (lookups.map .get)).Alike (other.run (lookups.map .get)) := by
  -- Each lookup leaves rosters that are alike for the next one.
  induction lookups generalizing roster other with
  | nil => exact ⟨rfl, alike⟩
  | cons lookup rest ih =>
    obtain ⟨asks, next⟩ := alike.get lookup
    obtain ⟨queries, last⟩ := ih next
    refine ⟨?_, last⟩
    simp only [List.map_cons, Roster.queries, asks, queries]

end Alike

/-- The directory counts the queries of a lookup. -/
theorem step_get_directory (roster : Roster) (lookup : String) :
    (roster.step (.get lookup)).directory =
      roster.directory.noteQueries (roster.asks (.get lookup)).length := by
  simp only [asks, List.length_map]
  rfl

/-- A lookup asks and adds the same after another text was looked up. -/
theorem step_get_of_ne {text : String} (differs : text ≠ lookup) :
    let after := roster.step (.get lookup)
    after.asks (.get text) = roster.asks (.get text) ∧
      ∃ news : List (String × UserFacts), (∀ other, other ≠ text → news.lookup other = none) ∧
        (roster.step (.get text)).book = roster.book.add news ∧
        (after.step (.get text)).book = after.book.add news := by
  intro after
  -- Neither what is kept under the text nor what the directory answers has changed.
  have answers : after.directory.account = roster.directory.account :=
    account_noteQueries roster.directory _
  obtain ⟨asked, news, own, grown, later⟩ := @UserBook.get_congr roster.book after.book
    roster.directory.account text (UserBook.find?_get_of_ne differs) (step_rule roster _)
  refine ⟨by simp only [asks, lookUp, answers, asked], news, own, grown, ?_⟩
  rw [← later, ← answers]
  rfl

/-- Two lookups can be made in either order. -/
theorem swap (roster : Roster) (first second : String) :
    (roster.run [.get first, .get second]).Alike (roster.run [.get second, .get first]) ∧
      (roster.queries [.get first, .get second]).Perm
        (roster.queries [.get second, .get first]) := by
  -- Two lookups of one text are in either order already.
  by_cases same : first = second
  · subst same
    exact ⟨.refl _, .refl _⟩
  · -- Neither lookup has anything to do with what the other one adds.
    obtain ⟨asksFirst, newsFirst, ownFirst, grownFirst, laterFirst⟩ :=
      @step_get_of_ne roster second first same
    obtain ⟨asksSecond, newsSecond, ownSecond, grownSecond, laterSecond⟩ :=
      @step_get_of_ne roster first second (Ne.symm same)
    simp only [run_cons, run_nil, queries, asksFirst, asksSecond, List.append_nil]
    refine ⟨?_, List.perm_append_comm⟩
    constructor
    · simp only [step_get_directory, asksFirst, asksSecond, Directory.noteQueries_noteQueries,
        Nat.add_comm]
    · simp only [step_rule]
    · rw [laterFirst, laterSecond, grownFirst, grownSecond]
      simp only [UserBook.add, List.append_assoc]
      exact List.perm_append_comm.append_left roster.book.entries
    · intro text
      rw [laterFirst, laterSecond, grownFirst, grownSecond]
      simp only [UserBook.find?_add, Option.or_assoc]
      -- A text is told of by one of the two at most.
      by_cases own : text = first
      · have other := ownSecond text (own ▸ same)
        simp [other]
      · have other := ownFirst text own
        simp [other]

/-- Users can be looked up in any order: the same is kept in the end, and the same was asked. -/
theorem run_perm {first second : List String} (perm : first.Perm second) (roster : Roster) :
    (roster.run (first.map .get)).Alike (roster.run (second.map .get)) ∧
      (roster.queries (first.map .get)).Perm (roster.queries (second.map .get)) := by
  -- Orders differ by exchanges of neighbours, one after the other.
  induction perm generalizing roster with
  | nil => exact ⟨.refl _, .refl _⟩
  | cons lookup _ ih =>
    obtain ⟨alike, asked⟩ := ih (roster.step (.get lookup))
    exact ⟨alike, asked.append_left _⟩
  | swap second first rest =>
    obtain ⟨alike, asked⟩ := roster.swap first second
    obtain ⟨later, last⟩ := alike.run rest
    -- What comes after the two asks the same in either case.
    have cut : ∀ early late : String, roster.queries ((early :: late :: rest).map .get) =
        roster.queries [.get early, .get late] ++
          (roster.run [.get early, .get late]).queries (rest.map .get) :=
      fun early late => queries_append [.get early, .get late] (rest.map .get)
    rw [cut, cut, later]
    exact ⟨last, asked.append_right _⟩
  | trans _ _ ihFirst ihSecond =>
    obtain ⟨alike, asked⟩ := ihFirst roster
    obtain ⟨later, last⟩ := ihSecond roster
    exact ⟨alike.trans later, asked.trans last⟩

end Roster

end ComputerRoom
