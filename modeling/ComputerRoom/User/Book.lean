import ComputerRoom.User.LoginName
import ComputerRoom.User.Privacy

/-!
The book of users: what is known about each lookup text, resolved once and kept from then on. Only
an answer of a broken directory is not kept.
-/

namespace ComputerRoom

/-- What is known about a user. -/
structure UserFacts where
  /-- The id of the user's account; an unknown user has none. -/
  accountId : Option String
  username : String
  isTeacher : Bool
  hidesScreen : Bool
  deriving Repr, DecidableEq

namespace UserFacts

/-- The facts about a user without a resolved account. -/
def unknown (username : String) : UserFacts :=
  ⟨none, username, false, false⟩

/-- The facts about the owner of an account. -/
def ofAccount (rule : PrivacyRule) (username : String) (account : Account) : UserFacts :=
  ⟨some account.id, username, account.isTeacher, rule.conceals account⟩

/-- Whether the user has a resolved account. -/
def isResolved (facts : UserFacts) : Bool :=
  facts.accountId.isSome

end UserFacts

/-- The rule that decides about screens, and the facts found so far by lookup text. -/
structure UserBook where
  rule : PrivacyRule
  entries : List (String × UserFacts)
  deriving Repr, DecidableEq

/-- The answer to one lookup, the login names asked for on the way, and the book after it. -/
structure Lookup where
  answer : Except DirectoryFailure UserFacts
  asked : List String
  book : UserBook

namespace UserBook

/-- The book without any entry. -/
def new (rule : PrivacyRule) : UserBook :=
  ⟨rule, []⟩

/-- The facts kept under a lookup text. -/
def find? (book : UserBook) (lookup : String) : Option UserFacts :=
  book.entries.lookup lookup

/-- Keeps facts under a lookup text. -/
def keep (book : UserBook) (lookup : String) (facts : UserFacts) : UserBook :=
  { book with entries := book.entries ++ [(lookup, facts)] }

/-- Looks up a user, asking for the account if the lookup text is new. -/
def get (book : UserBook) (ask : String → Except DirectoryFailure Account) (lookup : String) :
    Lookup :=
  match book.find? lookup with
  | some facts => ⟨.ok facts, [], book⟩
  | none =>
    match LoginName.parse lookup with
    | .error failure => ⟨.error failure, [], book⟩
    | .ok username =>
      match ask username with
      | .ok account =>
        let facts := UserFacts.ofAccount book.rule username account
        ⟨.ok facts, [username], book.keep lookup facts⟩
      -- A broken directory says nothing about the user, so the next lookup asks again.
      | .error (.backend _) => ⟨.ok (.unknown username), [username], book⟩
      | .error _ =>
        let facts := UserFacts.unknown username
        ⟨.ok facts, [username], book.keep lookup facts⟩

end UserBook

end ComputerRoom
