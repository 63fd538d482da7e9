import ComputerRoom.Directory.Change
import ComputerRoom.Proofs.User.Roster

/-!
The book of users over time. What is kept in it stays, and is what the directory told when the user
was first looked up, however the directory changes after that.
-/

namespace ComputerRoom

/-- One thing that happens to a directory and the book of users beside it. -/
inductive RosterStep where
  /-- A user is looked up. -/
  | get (lookup : String)
  /-- The book is read without asking the directory. -/
  | read (lookup : String)
  /-- Records are added to the directory, or its queries begin or cease to fail. -/
  | change (change : DirectoryChange)

namespace Roster

/-- The roster after one step. -/
def step (roster : Roster) : RosterStep → Roster
  | .get lookup => (roster.get lookup).2
  | .read _ => roster
  | .change change => { roster with directory := roster.directory.apply change }

/-- The roster after some steps. -/
def run (roster : Roster) (steps : List RosterStep) : Roster :=
  steps.foldl step roster

/-- What a lookup would find at present, and whom it would ask for on the way. -/
def lookUp (roster : Roster) (lookup : String) : Lookup :=
  roster.book.get roster.directory.account lookup

end Roster

/--
Facts that the directory's answer about a user bears out: those of the account it gives, or those of
nobody where it knows of no single account. A broken directory bears out nothing.
-/
def UserFacts.BorneOut (rule : PrivacyRule) (facts : UserFacts) :
    Except DirectoryFailure Account → Prop
  | .ok account => facts.accountId = some account.id ∧ facts.isTeacher = account.isTeacher ∧
      facts.hidesScreen = rule.conceals account
  | .error (.backend _) => False
  | .error _ => facts.accountId = none ∧ facts.isTeacher = false ∧ facts.hidesScreen = false

namespace UserBook

variable {book : UserBook} {ask : String → Except DirectoryFailure Account}
  {lookup username : String}

/-- A new text without a name in it is an error, and nobody is asked for. -/
theorem get_of_nameless (missing : book.find? lookup = none)
    (nameless : LoginName.parse? lookup = none) :
    book.get ask lookup = ⟨.error (.missingKey lookup), [], book⟩ := by
  simp [get, LoginName.parse, missing, nameless]

/-- A broken directory is asked in vain, and nothing is kept of it. -/
theorem get_of_broken {text : String} (missing : book.find? lookup = none)
    (parsed : LoginName.parse? lookup = some username)
    (broken : ask username = .error (.backend text)) :
    book.get ask lookup = ⟨.ok (.unknown username), [username], book⟩ := by
  simp [get, LoginName.parse, missing, parsed, broken]

/-- A directory that works is asked once, and what it tells is kept. -/
theorem get_of_working (missing : book.find? lookup = none)
    (parsed : LoginName.parse? lookup = some username)
    (works : ∀ text, ask username ≠ .error (.backend text)) :
    ∃ facts : UserFacts, facts.username = username ∧ facts.BorneOut book.rule (ask username) ∧
      book.get ask lookup = ⟨.ok facts, [username], book.keep lookup facts⟩ := by
  -- The facts are those of the account, or those of an unknown user.
  cases told : ask username with
  | ok account =>
    exact ⟨.ofAccount book.rule username account, rfl, ⟨rfl, rfl, rfl⟩,
      by simp [get, LoginName.parse, missing, parsed, told]⟩
  | error failure =>
    refine ⟨.unknown username, rfl, ?_, ?_⟩
    · cases failure with
      | backend text => exact absurd told (works text)
      | notFound | ambiguous | missingKey => exact ⟨rfl, rfl, rfl⟩
    · cases failure with
      | backend text => exact absurd told (works text)
      | notFound | ambiguous | missingKey => simp [get, LoginName.parse, missing, parsed, told]

end UserBook

namespace Roster

variable {roster : Roster} {lookup : String} {facts : UserFacts}

/-- An empty run leaves the roster as it is. -/
@[simp] theorem run_nil : roster.run [] = roster := rfl

/-- The first step hands its roster to the rest. -/
@[simp] theorem run_cons (first : RosterStep) (rest : List RosterStep) :
    roster.run (first :: rest) = (roster.step first).run rest := rfl

/-- A step changes nothing about the book, or looks up a new text and keeps what it answers. -/
theorem step_book (roster : Roster) (step : RosterStep) :
    (roster.step step).book = roster.book ∨
      ∃ lookup facts, step = .get lookup ∧ roster.book.find? lookup = none ∧
        (roster.step step).book = roster.book.keep lookup facts := by
  -- Only a lookup writes to the book, and what a lookup can write is known.
  cases step with
  | get lookup =>
    rcases roster.book.get_book roster.directory.account lookup with same | ⟨facts, new, _, kept⟩
    · exact .inl same
    · exact .inr ⟨lookup, facts, rfl, new, kept⟩
  | read | change => exact .inl rfl

/-- No step changes the rule about screens. -/
@[simp] theorem step_rule (roster : Roster) (step : RosterStep) :
    (roster.step step).book.rule = roster.book.rule := by
  rcases roster.step_book step with same | ⟨_, _, _, _, kept⟩
  · rw [same]
  · rw [kept]
    rfl

/-- No run changes the rule about screens. -/
@[simp] theorem run_rule (roster : Roster) (steps : List RosterStep) :
    (roster.run steps).book.rule = roster.book.rule := by
  induction steps generalizing roster with
  | nil => rfl
  | cons first rest ih => rw [run_cons, ih, step_rule]

/-- A step leaves what is kept as it is. -/
theorem step_find? (kept : roster.book.find? lookup = some facts) (step : RosterStep) :
    (roster.step step).book.find? lookup = some facts := by
  -- New facts come after those that were there, so these are still found first.
  rcases roster.step_book step with same | ⟨other, news, _, _, added⟩
  · rw [same, kept]
  · simp [added, UserBook.find?_keep, kept]

/-- What is kept once stays for ever. -/
theorem run_find? (kept : roster.book.find? lookup = some facts) (steps : List RosterStep) :
    (roster.run steps).book.find? lookup = some facts := by
  induction steps generalizing roster with
  | nil => exact kept
  | cons first rest ih => exact ih (step_find? kept first)

/-- A text that a step makes known is the one that the step looks up. -/
theorem step_eq_get {step : RosterStep} (new : roster.book.find? lookup = none)
    (kept : (roster.step step).book.find? lookup = some facts) : step = .get lookup := by
  rcases roster.step_book step with same | ⟨other, news, looked, _, added⟩
  · rw [same, new] at kept
    contradiction
  · -- Facts are kept under the text that was looked up, and under no other.
    by_cases own : lookup = other
    · rw [own]
      exact looked
    · simp [added, UserBook.find?_keep, new, own] at kept

/-- Whatever a run came to keep was kept when it was first looked up. -/
theorem exists_first_lookup {steps : List RosterStep} (new : roster.book.find? lookup = none)
    (kept : (roster.run steps).book.find? lookup = some facts) :
    ∃ early late, steps = early ++ .get lookup :: late ∧
      (roster.run early).book.find? lookup = none ∧
      ((roster.run early).step (.get lookup)).book.find? lookup = some facts := by
  -- Either the first step made the text known, or a later one did.
  induction steps generalizing roster with
  | nil =>
    rw [run_nil, new] at kept
    contradiction
  | cons first rest ih =>
    cases after : (roster.step first).book.find? lookup with
    | none =>
      obtain ⟨early, late, rfl, unknown, known⟩ := ih after kept
      exact ⟨first :: early, late, rfl, unknown, known⟩
    | some found =>
      have looked : first = .get lookup := step_eq_get new after
      -- What was kept then is what is kept now.
      have lasting : (roster.run (first :: rest)).book.find? lookup = some found :=
        run_find? after rest
      rw [kept, Option.some.injEq] at lasting
      subst looked
      exact ⟨[], rest, rfl, new, lasting ▸ after⟩

/-- A lookup that makes a text known keeps what the directory answers about the name in it. -/
theorem borneOut_of_step (new : roster.book.find? lookup = none)
    (kept : (roster.step (.get lookup)).book.find? lookup = some facts) :
    ∃ username, LoginName.parse? lookup = some username ∧ facts.username = username ∧
      facts.BorneOut roster.book.rule (roster.directory.account username) := by
  have answered : (roster.lookUp lookup).book.find? lookup = some facts := kept
  rw [lookUp] at answered
  -- Without a name, or with a broken directory, nothing would have been kept.
  cases parsed : LoginName.parse? lookup with
  | none =>
    rw [UserBook.get_of_nameless new parsed, new] at answered
    contradiction
  | some username =>
    have works : ∀ text, roster.directory.account username ≠ .error (.backend text) := by
      intro text broken
      rw [UserBook.get_of_broken new parsed broken, new] at answered
      contradiction
    obtain ⟨told, named, borne, got⟩ := UserBook.get_of_working new parsed works
    rw [got, UserBook.find?_keep, new] at answered
    have same : told = facts := by simpa using answered
    subst same
    exact ⟨username, rfl, named, borne⟩

/-- What a lookup asks, answers and keeps. -/
structure Answers (roster : Roster) (lookup : String) : Prop where
  /-- The directory is asked once for a name that nothing is kept about, and never otherwise. -/
  asks : (roster.lookUp lookup).asked =
    if roster.book.find? lookup = none then (LoginName.parse? lookup).toList else []
  /-- The directory counts what it is asked, unless something else answers in its place. -/
  counts : (roster.step (.get lookup)).directory.answered = roster.directory.answered +
    if roster.directory.outages.user.isSome then 0 else (roster.lookUp lookup).asked.length
  /-- A text without a name is the only failure. -/
  fails : ∀ failure, (roster.lookUp lookup).answer = .error failure ↔
    LoginName.parse? lookup = none ∧ failure = .missingKey lookup
  /-- Nothing is kept about a text without a name. -/
  nameless : LoginName.parse? lookup = none → (roster.step (.get lookup)).book = roster.book
  /-- A broken directory leaves a new user unknown, and nothing is kept of that. -/
  broken : ∀ username text, roster.book.find? lookup = none →
    LoginName.parse? lookup = some username →
    roster.directory.account username = .error (.backend text) →
    (roster.lookUp lookup).answer = .ok (.unknown username) ∧
      (roster.step (.get lookup)).book = roster.book
  /-- What a working directory tells of a new user is answered and kept, under this text alone. -/
  working : ∀ username, roster.book.find? lookup = none →
    LoginName.parse? lookup = some username →
    (∀ text, roster.directory.account username ≠ .error (.backend text)) →
    ∃ facts : UserFacts, facts.username = username ∧
      facts.BorneOut roster.book.rule (roster.directory.account username) ∧
      (roster.lookUp lookup).answer = .ok facts ∧
      ∀ other, (roster.step (.get lookup)).book.find? other =
        if other = lookup then some facts else roster.book.find? other

/-- A lookup adds what it asked to the count of a directory that answers for itself. -/
theorem step_answered (roster : Roster) (lookup : String) :
    (roster.step (.get lookup)).directory.answered = roster.directory.answered +
      if roster.directory.outages.user.isSome then 0 else (roster.lookUp lookup).asked.length := by
  simp only [step, Roster.get, lookUp, Directory.noteQueries]
  split <;> rfl

/-- A text that is known and holds a name is answered from the book. -/
theorem Answers.of_known (known : roster.book.find? lookup = some facts) {username : String}
    (parsed : LoginName.parse? lookup = some username) : roster.Answers lookup := by
  have found : roster.lookUp lookup = ⟨.ok facts, [], roster.book⟩ := UserBook.get_of_found known
  constructor
  case counts => exact roster.step_answered lookup
  all_goals simp [found, known, parsed]

/-- A new text without a name is answered with a failure. -/
theorem Answers.of_nameless (new : roster.book.find? lookup = none)
    (nameless : LoginName.parse? lookup = none) : roster.Answers lookup := by
  have found : roster.lookUp lookup = ⟨.error (.missingKey lookup), [], roster.book⟩ :=
    UserBook.get_of_nameless new nameless
  constructor
  case counts => exact roster.step_answered lookup
  case nameless => exact fun _ => congrArg Lookup.book found
  all_goals simp [found, nameless, eq_comm]

/-- A broken directory leaves a new user unknown. -/
theorem Answers.of_broken {username text : String} (new : roster.book.find? lookup = none)
    (parsed : LoginName.parse? lookup = some username)
    (broken : roster.directory.account username = .error (.backend text)) :
    roster.Answers lookup := by
  have found : roster.lookUp lookup = ⟨.ok (.unknown username), [username], roster.book⟩ :=
    UserBook.get_of_broken new parsed broken
  constructor
  case counts => exact roster.step_answered lookup
  case broken =>
    intro other _ _ same _
    rw [parsed, Option.some.injEq] at same
    exact ⟨by rw [found, same], congrArg Lookup.book found⟩
  all_goals simp [found, new, parsed, broken]

/-- What a working directory tells of a new user is answered and kept. -/
theorem Answers.of_working {username : String} (new : roster.book.find? lookup = none)
    (parsed : LoginName.parse? lookup = some username)
    (works : ∀ text, roster.directory.account username ≠ .error (.backend text)) :
    roster.Answers lookup := by
  obtain ⟨facts, named, borne, got⟩ := UserBook.get_of_working new parsed works
  have found : roster.lookUp lookup = ⟨.ok facts, [username], roster.book.keep lookup facts⟩ := got
  constructor
  case counts => exact roster.step_answered lookup
  case broken =>
    intro other text _ same failed
    rw [parsed, Option.some.injEq] at same
    exact absurd failed (same ▸ works text)
  case working =>
    intro other _ same _
    rw [parsed, Option.some.injEq] at same
    refine ⟨facts, named.trans same, same ▸ borne, by rw [found], fun key => ?_⟩
    have written : (roster.step (.get lookup)).book = roster.book.keep lookup facts :=
      congrArg Lookup.book found
    rw [written, UserBook.find?_keep]
    -- Nothing was kept under this text before.
    by_cases own : key = lookup
    · simp [own, new]
    · simp [own]
  all_goals simp [found, new, parsed]

/-- A new text is answered as there is a name in it, and as the directory works. -/
theorem Answers.of_new (new : roster.book.find? lookup = none) : roster.Answers lookup := by
  cases parsed : LoginName.parse? lookup with
  | none => exact .of_nameless new parsed
  | some username =>
    by_cases broken : ∃ text, roster.directory.account username = .error (.backend text)
    · obtain ⟨text, failed⟩ := broken
      exact .of_broken new parsed failed
    · exact .of_working new parsed fun text failed => broken ⟨text, failed⟩

/--
The first lookup that a working directory answers settles what is known of a user: what it told then
is kept, and given by every lookup after it without asking again.
-/
theorem first_lookup_settles (rule : PrivacyRule) (directory : Directory) (steps : List RosterStep)
    (lookup : String) :
    let start : Roster := ⟨directory, .new rule⟩
    let roster := start.run steps
    roster.Answers lookup ∧ roster.book.rule = rule ∧
      ∀ facts, roster.book.find? lookup = some facts →
        (∀ later, (roster.run later).book.find? lookup = some facts ∧
          (roster.run later).lookUp lookup = ⟨.ok facts, [], (roster.run later).book⟩) ∧
        ∃ early late username, steps = early ++ .get lookup :: late ∧
          (start.run early).book.find? lookup = none ∧
          LoginName.parse? lookup = some username ∧ facts.username = username ∧
          facts.BorneOut rule ((start.run early).directory.account username) := by
  intro start roster
  have ruled : roster.book.rule = rule := run_rule start steps
  cases known : roster.book.find? lookup with
  | none =>
    exact ⟨.of_new known, ruled, by simp⟩
  | some facts =>
    -- The book was empty at first, so the text was looked up at some time, and held a name.
    obtain ⟨early, late, split, new, first⟩ := exists_first_lookup rfl known
    obtain ⟨username, parsed, named, borne⟩ := borneOut_of_step new first
    rw [run_rule] at borne
    refine ⟨.of_known known parsed, ruled, ?_⟩
    rintro _ ⟨rfl⟩
    refine ⟨fun later => ?_, early, late, username, split, new, parsed, named, borne⟩
    have lasting := run_find? known later
    exact ⟨lasting, UserBook.get_of_found lasting⟩

end Roster

end ComputerRoom
