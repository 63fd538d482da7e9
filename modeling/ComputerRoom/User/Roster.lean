import ComputerRoom.Directory.Store
import ComputerRoom.User.Book

/-! The book of users beside the directory that it asks. -/

namespace ComputerRoom

/-- A directory and the book of the users looked up in it. -/
structure Roster where
  directory : Directory
  book : UserBook
  deriving Repr, DecidableEq

namespace Roster

/-- Looks up a user, counting the query if the directory had to answer one. -/
def get (roster : Roster) (lookup : String) : Except DirectoryFailure UserFacts × Roster :=
  let found := roster.book.get roster.directory.account lookup
  (found.answer, ⟨roster.directory.noteQueries found.asked.length, found.book⟩)

/-- What is known about a user who may be absent; a user whose text holds no name is unknown. -/
def facts? (roster : Roster) (user : Option String) : Option UserFacts × Roster :=
  match user with
  | none => (none, roster)
  | some lookup =>
    let (answer, after) := roster.get lookup
    (answer.toOption, after)

/-- Whether a user who may be absent is a teacher. -/
def isTeacher (roster : Roster) (user : Option String) : Bool × Roster :=
  let (facts, after) := roster.facts? user
  (facts.any (·.isTeacher), after)

/-- Whether the screen of a user who may be absent is hidden. -/
def hidesScreen (roster : Roster) (user : Option String) : Bool × Roster :=
  let (facts, after) := roster.facts? user
  (facts.any (·.hidesScreen), after)

end Roster

end ComputerRoom
