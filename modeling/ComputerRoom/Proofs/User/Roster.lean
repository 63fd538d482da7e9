import ComputerRoom.Room.Broadcast

/-! Looking users up tells the same of everybody whoever was looked up before. -/

namespace ComputerRoom

namespace UserBook

variable {book : UserBook} {ask : String → Except DirectoryFailure Account}

/-- Facts that are kept answer for their own lookup text alone. -/
theorem find?_keep (book : UserBook) (kept lookup : String) (facts : UserFacts) :
    (book.keep kept facts).find? lookup =
      (book.find? lookup).or (if lookup = kept then some facts else none) := by
  -- New facts come last, so that those kept before are found first.
  by_cases same : lookup = kept
  · simp [find?, keep, List.lookup_append, same]
  · have differs : (lookup == kept) = false := beq_false_of_ne same
    simp [find?, keep, List.lookup_append, List.lookup_cons, differs, same]

/-- What is found in a book without asking. -/
theorem get_of_found {lookup : String} {facts : UserFacts}
    (found : book.find? lookup = some facts) :
    book.get ask lookup = ⟨.ok facts, [], book⟩ := by
  simp [get, found]

/-- The answer about a text that no facts are kept under depends on the rule alone. -/
theorem get_of_missing {other : UserBook} {lookup : String} (missing : book.find? lookup = none)
    (absent : other.find? lookup = none) (rule : other.rule = book.rule) :
    (other.get ask lookup).answer = (book.get ask lookup).answer := by
  simp only [get, missing, absent, rule]
  split
  · rfl
  · split <;> rfl

/-- Keeping what a lookup answered changes no answer. -/
theorem get_keep {kept : String} {facts : UserFacts} (missing : book.find? kept = none)
    (answered : (book.get ask kept).answer = .ok facts) (lookup : String) :
    ((book.keep kept facts).get ask lookup).answer = (book.get ask lookup).answer := by
  -- A text that is known already is answered as before, whatever else is kept.
  cases found : book.find? lookup with
  | some known =>
    have still : (book.keep kept facts).find? lookup = some known := by simp [find?_keep, found]
    rw [get_of_found still, get_of_found found]
  | none =>
    by_cases same : lookup = kept
    · -- The facts that are kept are those that the directory gave.
      subst same
      have now : (book.keep lookup facts).find? lookup = some facts := by simp [find?_keep, found]
      rw [get_of_found now, answered]
    · exact get_of_missing found (by simp [find?_keep, found, same]) rfl

/-- A lookup leaves the book as it was, or keeps in it what it answered about a new text. -/
theorem get_book (book : UserBook) (ask : String → Except DirectoryFailure Account)
    (lookup : String) :
    (book.get ask lookup).book = book ∨
      ∃ facts, book.find? lookup = none ∧ (book.get ask lookup).answer = .ok facts ∧
        (book.get ask lookup).book = book.keep lookup facts := by
  -- A failure of the directory is not kept, and may be asked again.
  cases found : book.find? lookup with
  | some facts => simp [get, found]
  | none =>
    simp only [get, found]
    split
    · exact .inl rfl
    · split
      · exact .inr ⟨_, trivial, rfl, rfl⟩
      · exact .inl rfl
      · exact .inr ⟨_, trivial, rfl, rfl⟩

/-- A lookup changes no answer. -/
theorem get_get (book : UserBook) (ask : String → Except DirectoryFailure Account)
    (first second : String) :
    ((book.get ask first).book.get ask second).answer = (book.get ask second).answer := by
  rcases book.get_book ask first with same | ⟨facts, missing, answered, kept⟩
  · rw [same]
  · rw [kept]
    exact get_keep missing answered second

end UserBook

namespace Roster

/-- Two rosters that tell the same of everybody. -/
def Agrees (roster other : Roster) : Prop :=
  ∀ lookup, (other.get lookup).1 = (roster.get lookup).1

variable {roster other : Roster}

/-- Counting queries changes nothing about the accounts. -/
theorem account_noteQueries (directory : Directory) (count : Nat) :
    (directory.noteQueries count).account = directory.account := by
  unfold Directory.noteQueries
  split <;> rfl

/-- A lookup changes no answer. -/
theorem Agrees.get (agrees : roster.Agrees other) (lookup : String) :
    roster.Agrees (other.get lookup).2 := by
  -- One lookup more changes nothing about the next answer.
  intro second
  rw [← agrees second]
  simp only [Roster.get, account_noteQueries]
  exact other.book.get_get other.directory.account lookup second

/-- Asking after somebody who may be absent changes no answer. -/
theorem Agrees.facts? (agrees : roster.Agrees other) (user : Option String) :
    (other.facts? user).1 = (roster.facts? user).1 ∧ roster.Agrees (other.facts? user).2 := by
  cases user with
  | none => exact ⟨rfl, agrees⟩
  | some lookup => exact ⟨congrArg Except.toOption (agrees lookup), agrees.get lookup⟩

/-- Asking whether a teacher works at a machine changes no answer. -/
theorem Agrees.watchesInWindow (agrees : roster.Agrees other) (client : Endpoint) :
    (Room.watchesInWindow other client).1 = (Room.watchesInWindow roster client).1 ∧
      roster.Agrees (Room.watchesInWindow other client).2 := by
  obtain ⟨same, next⟩ := agrees.facts? client.username.current
  -- Without a user nobody is looked up.
  simp only [Room.watchesInWindow]
  split
  · exact ⟨rfl, agrees⟩
  · refine ⟨?_, next⟩
    simp only [Endpoint.hasTeacher, isTeacher, same]

/-- Clients are seated by what the roster tells of each of them, whoever is looked up before. -/
theorem Agrees.seated (agrees : roster.Agrees other) (clients : List Endpoint) :
    (Room.seated other clients).1 =
      clients.map fun client => (client, (Room.watchesInWindow roster client).1) := by
  -- Each client is looked up in the roster that the lookups before it left.
  induction clients generalizing other with
  | nil => rfl
  | cons client rest ih =>
    obtain ⟨same, next⟩ := agrees.watchesInWindow client
    simp only [Room.seated, List.map_cons]
    rw [ih next, same]

/-- A roster agrees with itself. -/
theorem Agrees.refl (roster : Roster) : roster.Agrees roster :=
  fun _ => rfl

end Roster

namespace Endpoint

/-- Whether a client gets a demo on its whole screen if that is asked for. -/
def fillsScreen (roster : Roster) (client : Endpoint) : Bool :=
  !(Room.watchesInWindow roster client).1

/-- A client gets a demo on its whole screen if it has a user who is not found to teach. -/
theorem fillsScreen_iff (roster : Roster) (client : Endpoint) :
    client.fillsScreen roster = true ↔ ∃ user, client.username.current = some user ∧
      Text.trim user ≠ "" ∧ ∀ facts, (roster.get user).1 = .ok facts → facts.isTeacher = false := by
  -- Without a user, or with a blank name, the demo stays in its window.
  cases named : client.username.current with
  | none => simp [fillsScreen, Room.watchesInWindow, named]
  | some user =>
    by_cases blank : Text.trim user = ""
    · simp [fillsScreen, Room.watchesInWindow, named, blank]
    · -- A lookup that fails tells of no teacher.
      cases told : (roster.get user).1 with
      | error failure =>
        simp [fillsScreen, Room.watchesInWindow, named, blank, hasTeacher, Roster.isTeacher,
          Roster.facts?, told, Except.toOption]
      | ok facts =>
        simp [fillsScreen, Room.watchesInWindow, named, blank, hasTeacher, Roster.isTeacher,
          Roster.facts?, told, Except.toOption]

end Endpoint

end ComputerRoom
